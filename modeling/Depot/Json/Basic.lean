import Depot.Dictionary

/-!
# JSON values

A document from the server is kept as a `Json` value.  An object lists its fields by ascending key, one
field per key.  Whole numbers between -2^63 and 2^64 are exact; every other number is kept as the decimal
fraction that was written, `significand * 10 ^ exponent`, and nothing here computes with it.

* `Json.get?`, `string?`: one field, one text;
* `isNormal`: the fields ascend at every depth and every number is in its range, so that equal values are
  written alike;
* `depth`: how many containers are nested.

Equality is decided by recursion on the value (`Json.decEq`), since a type that is nested in lists of
itself derives none.
-/

namespace Depot

inductive Json where
  | null
  | bool (value : Bool)
  | int (value : Int)
  | decimal (significand : Int) (exponent : Int)
  | str (value : String)
  | array (items : List Json)
  | object (fields : List (String × Json))

namespace Json

instance : Inhabited Json := ⟨null⟩

/-! ### Equality -/

mutual

def beq : Json → Json → Bool
  | null, null => true
  | bool a, bool b => a == b
  | int a, int b => a == b
  | decimal a x, decimal b y => a == b && x == y
  | str a, str b => a == b
  | array a, array b => beqItems a b
  | object a, object b => beqFields a b
  | _, _ => false

def beqItems : List Json → List Json → Bool
  | [], [] => true
  | a :: as, b :: bs => beq a b && beqItems as bs
  | _, _ => false

def beqFields : List (String × Json) → List (String × Json) → Bool
  | [], [] => true
  | (j, a) :: as, (k, b) :: bs => j == k && (beq a b && beqFields as bs)
  | _, _ => false

end

mutual

theorem eq_of_beq : ∀ {a b : Json}, beq a b = true → a = b := by
  intro a b h
  cases a <;> cases b <;> simp only [beq, Bool.and_eq_true, beq_iff_eq, reduceCtorEq] at h <;>
    first
      | rfl
      | (cases h; done)
      | (subst h; rfl)
      | (obtain ⟨rfl, rfl⟩ := h; rfl)
      | rw [eq_of_beqItems h]
      | rw [eq_of_beqFields h]

theorem eq_of_beqItems : ∀ {a b : List Json}, beqItems a b = true → a = b
  | [], [], _ => rfl
  | [], _ :: _, h => by simp [beqItems] at h
  | _ :: _, [], h => by simp [beqItems] at h
  | a :: as, b :: bs, h => by
    simp only [beqItems, Bool.and_eq_true] at h
    rw [eq_of_beq h.1, eq_of_beqItems h.2]

theorem eq_of_beqFields : ∀ {a b : List (String × Json)}, beqFields a b = true → a = b
  | [], [], _ => rfl
  | [], _ :: _, h => by simp [beqFields] at h
  | _ :: _, [], h => by simp [beqFields] at h
  | (j, a) :: as, (k, b) :: bs, h => by
    simp only [beqFields, Bool.and_eq_true, beq_iff_eq] at h
    rw [h.1, eq_of_beq h.2.1, eq_of_beqFields h.2.2]

end

mutual

theorem beq_self : ∀ a : Json, beq a a = true
  | null => by simp [beq]
  | bool _ => by simp [beq]
  | int _ => by simp [beq]
  | decimal _ _ => by simp [beq]
  | str _ => by simp [beq]
  | array items => by rw [beq]; exact beqItems_self items
  | object fields => by rw [beq]; exact beqFields_self fields

theorem beqItems_self : ∀ a : List Json, beqItems a a = true
  | [] => by simp [beqItems]
  | a :: as => by simp [beqItems, beq_self a, beqItems_self as]

theorem beqFields_self : ∀ a : List (String × Json), beqFields a a = true
  | [] => by simp [beqFields]
  | (_, a) :: as => by simp [beqFields, beq_self a, beqFields_self as]

end

def decEq (a b : Json) : Decidable (a = b) :=
  if h : beq a b = true then isTrue (eq_of_beq h) else isFalse fun e => h (e ▸ beq_self a)

instance : DecidableEq Json := decEq

/-! ### Looking inside -/

/-- The value of a field, if this is an object that has it. -/
def get? (v : Json) (key : String) : Option Json :=
  match v with
  | object fields => fields.lookup key
  | _ => none

/-- The text, if this is one. -/
def string? : Json → Option String
  | str s => some s
  | _ => none

/-- The object with these fields in any order; the last one of a key wins. -/
def ofFields (fields : List (String × Json)) : Json := object (Dictionary.ofList fields).entries

/-! ### Numbers in range -/

/-- The least number that is too large for a double-precision number, which is half a step above the
largest of them. -/
def decimalLimit : Nat := Nat.pow 2 1024 - Nat.pow 2 970

/-- `significand * 10 ^ exponent` is not too large for a double-precision number. -/
def decimalFits (significand : Nat) (exponent : Int) : Bool :=
  let point := (Nat.toDigits 10 significand).length + exponent
  if significand = 0 ∨ point ≤ 308 then true
  else if 310 < point then false
  else significand * Nat.pow 10 exponent.toNat < decimalLimit * Nat.pow 10 (-exponent).toNat

/-- A whole number that is kept exactly. -/
def intFits (n : Int) : Bool := -0x8000000000000000 ≤ n ∧ n < 0x10000000000000000

/-! ### Normal form and depth -/

mutual

/-- Keys ascend at every depth and numbers are in range. -/
def isNormal : Json → Bool
  | int n => intFits n
  | decimal significand exponent => decimalFits significand.natAbs exponent
  | array items => areNormal items
  | object fields => decide (Ascending fields) && fieldsAreNormal fields
  | _ => true

def areNormal : List Json → Bool
  | [] => true
  | v :: rest => v.isNormal && areNormal rest

def fieldsAreNormal : List (String × Json) → Bool
  | [] => true
  | (_, v) :: rest => v.isNormal && fieldsAreNormal rest

end

mutual

/-- The number of containers around the innermost value. -/
def depth : Json → Nat
  | array items => depthOfItems items + 1
  | object fields => depthOfFields fields + 1
  | _ => 0

def depthOfItems : List Json → Nat
  | [] => 0
  | v :: rest => max v.depth (depthOfItems rest)

def depthOfFields : List (String × Json) → Nat
  | [] => 0
  | (_, v) :: rest => max v.depth (depthOfFields rest)

end

end Json

end Depot
