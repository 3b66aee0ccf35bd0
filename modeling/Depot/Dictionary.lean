/-!
# Dictionaries in key order

A `Dictionary α` holds one value per key and lists its entries in ascending order of the keys: request
parameters, header fields, the environment.  The order is the order of the characters' numbers, which is
also the order of the bytes in UTF-8, so a dictionary has one written form.

* `insert` puts a value under a key, in place of an older one;
* `erase`, `get?`, `override` do what their names say;
* `ofList` takes pairs in any order, the last one of a key wins.

That the keys ascend is part of the type.  It is carried by `insertSorted_ascending` and
`List.Pairwise.filter`; no operation needs it to compute its answer.
-/

namespace Depot

/-! ### Sorted lists of pairs -/

/-- Put a value under a key into a list that is sorted by key. -/
def insertSorted {α : Type} (key : String) (value : α) :
    List (String × α) → List (String × α)
  | [] => [(key, value)]
  | (k, v) :: rest =>
    if key < k then (key, value) :: (k, v) :: rest
    else if k < key then (k, v) :: insertSorted key value rest
    else (key, value) :: rest

/-- The keys ascend, so none is repeated. -/
def Ascending {α : Type} (entries : List (String × α)) : Prop :=
  entries.Pairwise fun a b => a.1 < b.1

instance {α : Type} (entries : List (String × α)) : Decidable (Ascending entries) :=
  inferInstanceAs (Decidable (List.Pairwise _ _))

theorem mem_insertSorted {α : Type} {key : String} {value : α} {entries : List (String × α)}
    {p : String × α} (h : p ∈ insertSorted key value entries) : p = (key, value) ∨ p ∈ entries := by
  induction entries with
  | nil => simpa [insertSorted] using h
  | cons e rest ih =>
    rw [insertSorted] at h
    split at h
    · simpa using h
    · split at h
      · rcases List.mem_cons.1 h with h | h
        · simp [h]
        · rcases ih h with h | h <;> simp [h]
      · rcases List.mem_cons.1 h with h | h <;> simp [h]

theorem insertSorted_ascending {α : Type} (key : String) (value : α) {entries : List (String × α)}
    (h : Ascending entries) : Ascending (insertSorted key value entries) := by
  induction entries with
  | nil => simp [insertSorted, Ascending]
  | cons e rest ih =>
    obtain ⟨hhead, hrest⟩ := List.pairwise_cons.1 h
    rw [insertSorted]
    split
    · next hlt =>
      refine List.pairwise_cons.2 ⟨fun p hp => ?_, h⟩
      rcases List.mem_cons.1 hp with rfl | hp
      · exact hlt
      · exact String.lt_trans hlt (hhead p hp)
    · split
      · next hlt =>
        refine List.pairwise_cons.2 ⟨fun p hp => ?_, ih hrest⟩
        rcases mem_insertSorted hp with rfl | hp
        · exact hlt
        · exact hhead p hp
      · next h1 h2 =>
        have e : e.1 = key := String.le_antisymm (String.not_lt.1 h1) (String.not_lt.1 h2)
        exact List.pairwise_cons.2 ⟨fun p hp => e ▸ hhead p hp, hrest⟩

/-! ### The type -/

/-- One value per key, listed by ascending key. -/
structure Dictionary (α : Type) where
  entries : List (String × α)
  ascending : Ascending entries

namespace Dictionary

variable {α : Type}

/-- No entries. -/
def empty : Dictionary α := ⟨[], List.Pairwise.nil⟩

instance : EmptyCollection (Dictionary α) := ⟨empty⟩
instance : Inhabited (Dictionary α) := ⟨empty⟩

@[ext] theorem ext {a b : Dictionary α} (h : a.entries = b.entries) : a = b := by
  cases a; cases b; simp_all

instance [DecidableEq α] : DecidableEq (Dictionary α) := fun a b =>
  if h : a.entries = b.entries then isTrue (ext h) else isFalse fun e => h (e ▸ rfl)

/-- Put a value under a key, in place of an older one. -/
def insert (d : Dictionary α) (key : String) (value : α) : Dictionary α :=
  ⟨insertSorted key value d.entries, insertSorted_ascending key value d.ascending⟩

/-- The value under a key. -/
def get? (d : Dictionary α) (key : String) : Option α := d.entries.lookup key

/-- Drop a key and its value. -/
def erase (d : Dictionary α) (key : String) : Dictionary α :=
  ⟨d.entries.filter (·.1 != key), d.ascending.filter _⟩

/-- Take over every entry of the second dictionary; its values win. -/
def override (d other : Dictionary α) : Dictionary α :=
  other.entries.foldl (fun d e => d.insert e.1 e.2) d

/-- The dictionary of some pairs; the last pair of a key wins. -/
def ofList (pairs : List (String × α)) : Dictionary α :=
  pairs.foldl (fun d e => d.insert e.1 e.2) empty

end Dictionary

end Depot
