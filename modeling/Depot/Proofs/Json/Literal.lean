import Depot.Json.Printer
import Depot.Json.Token
import Depot.Proofs.Text.Utf8
import Mathlib.Data.List.TakeWhile

/-!
# Strings and numbers that were written are read back

The two kinds of words whose form is not fixed.  A string is read in two steps, pieces first and bytes
from them; `Spells` says what both steps make of the bytes between two quotation marks, and is built up
along the text, one character in front of the rest (`spells_escapeChar`).  A number is a sign and digits;
its digits are taken off from the right.

* `textToken_quoted`: the string that was quoted;
* `numberToken_int`, `numberToken_decimal`: the number that was written.
-/

namespace Depot.Json

open Utf8 (byte encode encodeChar)

/-! ### Strings -/

/-- These bytes between two quotation marks stand for this text. -/
def Spells (raw text : Bytes) : Prop := ∃ parts, pieces raw = some parts ∧ pieceBytes parts = some text

theorem spells_nil : Spells [] [] := ⟨[], rfl, rfl⟩

theorem spells_byte {b : UInt8} {raw text : Bytes} (plain : b ≠ 0x5C) (h : Spells raw text) :
    Spells (b :: raw) (b :: text) := by
  obtain ⟨parts, read, made⟩ := h
  refine ⟨.byte b :: parts, ?_, ?_⟩
  · rw [pieces.eq_def]
    simp only [if_neg plain, read, Option.map_some]
  · rw [pieceBytes, made, Option.map_some]

theorem spells_bytes {bytes raw text : Bytes} (plain : ∀ b ∈ bytes, b ≠ 0x5C) (h : Spells raw text) :
    Spells (bytes ++ raw) (bytes ++ text) := by
  induction bytes with
  | nil => exact h
  | cons b bytes ih =>
    have rest := ih fun b' hb' => plain b' (List.mem_cons_of_mem b hb')
    exact spells_byte (plain b List.mem_cons_self) rest

theorem spells_letter {e b : UInt8} {raw text : Bytes} (notUnit : e ≠ 0x75)
    (means : escapeValue e = some b) (h : Spells raw text) :
    Spells (0x5C :: e :: raw) (b :: text) := by
  obtain ⟨parts, read, made⟩ := h
  refine ⟨.byte b :: parts, ?_, ?_⟩
  · rw [pieces.eq_def]
    simp only [if_true]
    split
    · next heq => exact absurd (List.cons.inj heq).1 notUnit
    · next heq =>
      obtain ⟨rfl, rfl⟩ := List.cons.inj heq
      simp [means, read]
    · next heq => exact absurd heq (List.cons_ne_nil _ _)
  · rw [pieceBytes, made, Option.map_some]

/-- Four hexadecimal digits whose number is no half of a surrogate pair. -/
theorem spells_unit {a b c d : UInt8} {i j k l : Nat} {raw text : Bytes} (ha : hexValue a = some i)
    (hb : hexValue b = some j) (hc : hexValue c = some k) (hd : hexValue d = some l)
    (low : i * 4096 + j * 256 + k * 16 + l < 0xD800) (h : Spells raw text) :
    Spells (0x5C :: 0x75 :: a :: b :: c :: d :: raw)
      (encodeChar (Char.ofNat (i * 4096 + j * 256 + k * 16 + l)) ++ text) := by
  obtain ⟨parts, read, made⟩ := h
  refine ⟨.unit (i * 4096 + j * 256 + k * 16 + l) :: parts, ?_, ?_⟩
  · rw [pieces.eq_def]
    simp [ha, hb, hc, hd, read]
  · rw [pieceBytes.eq_def]
    simp only
    rw [if_neg (by omega), if_neg (by omega), made, Option.map_some]

theorem hexValue_hexDigit (n : Nat) : hexValue (byte (hexDigit n).toNat) = some (n % 16) := by
  have bound : n % 16 < 16 := Nat.mod_lt _ (by decide)
  rw [hexDigit]
  generalize n % 16 = d at bound
  revert d
  decide

/-- A hexadecimal digit is neither a mark nor a control character. -/
theorem plain_hexDigit (n : Nat) : byte (hexDigit n).toNat ≠ 0x22 ∧ byte (hexDigit n).toNat ≠ 0x5C ∧
    ¬ (byte (hexDigit n).toNat).toNat < 0x20 := by
  have bound : n % 16 < 16 := Nat.mod_lt _ (by decide)
  rw [hexDigit]
  generalize n % 16 = d at bound
  revert d
  decide

theorem encodeChar_hexDigit (n : Nat) : encodeChar (hexDigit n) = [byte (hexDigit n).toNat] := by
  have bound : n % 16 < 16 := Nat.mod_lt _ (by decide)
  rw [hexDigit]
  generalize n % 16 = d at bound
  revert d
  decide

theorem encodeChar_eq_of_toNat {c : Char} {n : Nat} (small : n < 0x80) (h : c.toNat = n) :
    encodeChar c = [byte n] := by
  rw [Utf8.encodeChar_ascii (by omega), h]

/-- What a byte of an unescaped character is not. -/
theorem plain_of_mem_encodeChar {c : Char} (noMark : c ≠ '"') (noSlash : c ≠ '\\')
    (noControl : ¬ c.toNat < 0x20) {b : UInt8} (hb : b ∈ encodeChar c) :
    b ≠ 0x22 ∧ b ≠ 0x5C ∧ ¬ b.toNat < 0x20 := by
  by_cases ascii : c.toNat < 0x80
  · rw [Utf8.encodeChar_ascii ascii, List.mem_singleton] at hb
    have value : b.toNat = c.toNat := by rw [hb, Utf8.toNat_byte (by omega)]
    have mark : c.toNat ≠ 0x22 := fun h => noMark (Char.toNat_inj.mp h)
    have slash : c.toNat ≠ 0x5C := fun h => noSlash (Char.toNat_inj.mp h)
    refine ⟨?_, ?_, by omega⟩
    · rintro rfl
      exact mark value.symm
    · rintro rfl
      exact slash value.symm
  · have high := Utf8.le_toNat_of_mem_encodeChar ascii hb
    refine ⟨?_, ?_, by omega⟩
    · rintro rfl
      exact absurd high (by decide)
    · rintro rfl
      exact absurd high (by decide)

/-- The three written forms of a character: one escaped byte, the number of a control character in
hexadecimal digits, the character itself. -/
theorem escapeChar_cases (c : Char) :
    (∃ e b, encode (escapeChar c) = [0x5C, e] ∧ e ≠ 0x75 ∧ escapeValue e = some b ∧ encodeChar c = [b]) ∨
    (c.toNat < 0x20 ∧ encode (escapeChar c) = [0x5C, 0x75, 0x30, 0x30,
      byte (hexDigit (c.toNat / 16)).toNat, byte (hexDigit c.toNat).toNat]) ∨
    (c ≠ '"' ∧ c ≠ '\\' ∧ ¬ c.toNat < 0x20 ∧ encode (escapeChar c) = encodeChar c) := by
  rw [escapeChar]
  split
  · next mark =>
    subst mark
    exact .inl ⟨0x22, 0x22, by decide⟩
  split
  · next slash =>
    subst slash
    exact .inl ⟨0x5C, 0x5C, by decide⟩
  split
  · next control =>
    split
    · next equal =>
      subst equal
      exact .inl ⟨0x6E, 0x0A, by decide⟩
    split
    · next equal =>
      subst equal
      exact .inl ⟨0x74, 0x09, by decide⟩
    split
    · next equal =>
      subst equal
      exact .inl ⟨0x72, 0x0D, by decide⟩
    split
    · next equal =>
      exact .inl ⟨0x62, 0x08, by decide, by decide, by decide, encodeChar_eq_of_toNat (by decide) equal⟩
    split
    · next equal =>
      exact .inl ⟨0x66, 0x0C, by decide, by decide, by decide, encodeChar_eq_of_toNat (by decide) equal⟩
    · refine .inr (.inl ⟨control, ?_⟩)
      simp only [Utf8.encode_cons, Utf8.encode_nil, encodeChar_hexDigit]
      rfl
  · next noMark noSlash noControl =>
    refine .inr (.inr ⟨noMark, noSlash, noControl, ?_⟩)
    rw [Utf8.encode_cons, Utf8.encode_nil, List.append_nil]

/-- **The written form of a character stands for the character.** -/
theorem spells_escapeChar (c : Char) {raw text : Bytes} (h : Spells raw text) :
    Spells (encode (escapeChar c) ++ raw) (encodeChar c ++ text) := by
  rcases escapeChar_cases c with ⟨e, b, form, notUnit, means, value⟩ | ⟨control, form⟩ |
    ⟨noMark, noSlash, noControl, form⟩
  · rw [form, value]
    exact spells_letter notUnit means h
  · -- two hexadecimal digits are enough for a control character
    have number : 0 * 4096 + 0 * 256 + c.toNat / 16 % 16 * 16 + c.toNat % 16 = c.toNat := by omega
    have unit := spells_unit (a := 0x30) (b := 0x30) (i := 0) (j := 0) rfl rfl
      (hexValue_hexDigit (c.toNat / 16)) (hexValue_hexDigit c.toNat) (by omega) h
    rw [number, Char.ofNat_toNat] at unit
    rw [form]
    exact unit
  · rw [form]
    exact spells_bytes (fun b hb => (plain_of_mem_encodeChar noMark noSlash noControl hb).2.1) h

theorem spells_quoted (text : List Char) : Spells (encode (text.flatMap escapeChar)) (encode text) := by
  induction text with
  | nil => exact spells_nil
  | cons c rest ih =>
    rw [List.flatMap_cons, Utf8.encode_append, Utf8.encode_cons]
    exact spells_escapeChar c ih

/-- The token of a quoted string holds the string. -/
theorem textToken_quoted (s : String) :
    textToken (encode (s.toList.flatMap escapeChar)) = some (.text (some s)) := by
  obtain ⟨parts, read, made⟩ := spells_quoted s.toList
  rw [textToken, read]
  show some (Token.text ((pieceBytes parts).bind Utf8.toString?)) = _
  rw [made]
  show some (Token.text (Utf8.toString? (Utf8.ofString s))) = _
  rw [Utf8.toString?_ofString]

/-! ### Numbers -/

/-- The bytes of the decimal digits. -/
def digitBytes (n : Nat) : Bytes := encode (Nat.toDigits 10 n)

/-- The byte in front of the digits of a negative number. -/
def signBytes (n : Int) : Bytes := if n < 0 then [0x2D] else []

theorem encode_digits (n : Int) : encode (digits n) = signBytes n ++ digitBytes n.natAbs := by
  rw [digits, Int.toString_eq_repr, Int.repr_eq_if, signBytes, digitBytes]
  split
  · rw [if_neg (by omega), Nat.toList_repr, show n.toNat = n.natAbs by omega, List.nil_append]
  · rw [if_pos (by omega), String.toList_append, Nat.toList_repr, Utf8.encode_append]
    rw [show (-n).toNat = n.natAbs by omega]
    rfl

theorem digitBytes_of_lt {d : Nat} (hd : d < 10) : digitBytes d = [byte (0x30 + d)] := by
  rw [digitBytes, Nat.toDigits_of_lt_base hd, Utf8.encode_cons, Utf8.encode_nil, List.append_nil]
  exact encodeChar_eq_of_toNat (by omega) (Nat.toNat_digitChar_of_lt_ten hd)

theorem digitBytes_append {n d : Nat} (hn : 0 < n) (hd : d < 10) :
    digitBytes (10 * n + d) = digitBytes n ++ [byte (0x30 + d)] := by
  rw [digitBytes, ← Nat.toDigits_append_toDigits (by decide) hn hd, Utf8.encode_append,
    ← digitBytes_of_lt hd]
  rfl

theorem toNat_digit {d : Nat} (hd : d < 10) : (byte (0x30 + d)).toNat = 0x30 + d :=
  Utf8.toNat_byte (by omega)

theorem isDigit_digit {d : Nat} (hd : d < 10) : isDigit (byte (0x30 + d)) = true := by
  rw [isDigit, toNat_digit hd, decide_eq_true_eq]
  omega

theorem isDigit_of_mem_digitBytes {n : Nat} : ∀ b ∈ digitBytes n, isDigit b = true := by
  induction n using Nat.base_induction 10 (by decide) with
  | single d hd =>
    intro b hb
    rw [digitBytes_of_lt hd, List.mem_singleton] at hb
    rw [hb, isDigit_digit hd]
  | digit n d hd hn ih =>
    intro b hb
    rw [digitBytes_append hn hd, List.mem_append, List.mem_singleton] at hb
    rcases hb with front | rfl
    · exact ih b front
    · exact isDigit_digit hd

theorem digitsValue_digitBytes (n : Nat) : digitsValue (digitBytes n) = n := by
  induction n using Nat.base_induction 10 (by decide) with
  | single d hd =>
    rw [digitBytes_of_lt hd]
    show 0 * 10 + ((byte (0x30 + d)).toNat - 0x30) = d
    rw [toNat_digit hd]
    omega
  | digit n d hd hn ih =>
    rw [digitBytes_append hn hd, digitsValue, List.foldl_append]
    show digitsValue (digitBytes n) * 10 + ((byte (0x30 + d)).toNat - 0x30) = 10 * n + d
    rw [ih, toNat_digit hd]
    omega

/-- The digits of a number begin with a digit, and with a zero only if there is no other. -/
theorem digitBytes_eq_cons (n : Nat) :
    ∃ b rest, digitBytes n = b :: rest ∧ isDigit b = true ∧ (b = 0x30 → rest = []) := by
  induction n using Nat.base_induction 10 (by decide) with
  | single d hd => exact ⟨_, _, digitBytes_of_lt hd, isDigit_digit hd, fun _ => rfl⟩
  | digit n d hd hn ih =>
    obtain ⟨b, rest, front, isDigit, only⟩ := ih
    refine ⟨b, rest ++ [byte (0x30 + d)], ?_, isDigit, ?_⟩
    · rw [digitBytes_append hn hd, front, List.cons_append]
    · -- a leading zero would be all of the digits of `n`, which is not zero
      rintro rfl
      rw [only rfl] at front
      have zero : n = 0 := by rw [← digitsValue_digitBytes n, front]; rfl
      omega

theorem isWhole_digitBytes (n : Nat) : isWhole (digitBytes n) = true := by
  have all := isDigit_of_mem_digitBytes (n := n)
  obtain ⟨b, rest, form, isDigit, only⟩ := digitBytes_eq_cons n
  rw [form] at all ⊢
  rcases rest with - | ⟨c, rest⟩
  · exact isDigit
  · have notZero : b ≠ 0x30 := fun zero => List.cons_ne_nil _ _ (only zero)
    simp only [isWhole, isDigit, Bool.true_and, Bool.and_eq_true, bne_iff_ne, List.all_eq_true]
    exact ⟨notZero, fun b' hb' => all b' (List.mem_cons_of_mem b hb')⟩

/-- What no digit is. -/
theorem digit_ne {b c : UInt8} (h : isDigit b = true) (hc : isDigit c = false) : b ≠ c := by
  rintro rfl
  rw [h] at hc
  exact absurd hc (by decide)

/-- A number without a fraction is taken apart at its sign and at its power of ten. -/
theorem numberToken_eq (n : Int) (power : Bytes) (starts : power = [] ∨ power.head? = some 0x65) :
    numberToken (signBytes n ++ digitBytes n.natAbs ++ power) =
      if power.isEmpty then
        some (.number (numberValue (decide (n < 0)) (digitBytes n.natAbs) [] true 0))
      else
        (exponentValue (power.drop 1)).map fun e =>
          .number (numberValue (decide (n < 0)) (digitBytes n.natAbs) [] false e) := by
  have all := isDigit_of_mem_digitBytes (n := n.natAbs)
  obtain ⟨b, rest, form, isDigit, -⟩ := digitBytes_eq_cons n.natAbs
  have sign : ((signBytes n ++ digitBytes n.natAbs ++ power).head? == some 0x2D) = decide (n < 0) := by
    rw [signBytes]
    by_cases negative : n < 0
    · simp [negative]
    · have : b ≠ 0x2D := digit_ne isDigit (by decide)
      simp [negative, form, this]
  have behind : (if decide (n < 0) then (signBytes n ++ digitBytes n.natAbs ++ power).drop 1
      else signBytes n ++ digitBytes n.natAbs ++ power) = digitBytes n.natAbs ++ power := by
    rw [signBytes]
    by_cases negative : n < 0
    · simp [negative]
    · simp [negative]
  have stops : ∀ b ∈ power.head?, (b != 0x65 && b != 0x45) = false := by
    intro b hb
    rcases starts with rfl | head
    · simp at hb
    · rw [head, Option.mem_some_iff] at hb
      subst hb
      rfl
  have mantissa : (digitBytes n.natAbs ++ power).takeWhile (fun b => b != 0x65 && b != 0x45)
      = digitBytes n.natAbs := by
    rw [List.takeWhile_append_of_pos]
    · rcases power with - | ⟨c, power⟩
      · rw [List.takeWhile_nil, List.append_nil]
      · rw [List.takeWhile_cons_of_neg (by simp [stops c rfl]), List.append_nil]
    · intro b hb
      have h₁ : b ≠ 0x65 := digit_ne (all b hb) (by decide)
      have h₂ : b ≠ 0x45 := digit_ne (all b hb) (by decide)
      simp [h₁, h₂]
  have whole : (digitBytes n.natAbs).takeWhile (· != 0x2E) = digitBytes n.natAbs := by
    rw [List.takeWhile_eq_self_iff]
    intro b hb
    have : b ≠ 0x2E := digit_ne (all b hb) (by decide)
    simp [this]
  simp only [numberToken, sign, behind, mantissa, whole, List.drop_left, List.drop_length,
    List.drop_nil, List.isEmpty_nil, Bool.true_or, Bool.and_true, isWhole_digitBytes, if_true]

/-- A written number begins with its sign or its first digit. -/
theorem encode_digits_starts (n : Int) :
    ∃ b rest, encode (digits n) = b :: rest ∧ (isDigit b || b = 0x2D) = true := by
  obtain ⟨b, rest, form, isDigit, -⟩ := digitBytes_eq_cons n.natAbs
  rw [encode_digits, signBytes, form]
  split
  · exact ⟨0x2D, b :: rest, rfl, by decide⟩
  · exact ⟨b, rest, rfl, by rw [isDigit, Bool.true_or]⟩

theorem mem_encode_digits {n : Int} {b : UInt8} (h : b ∈ encode (digits n)) :
    isDigit b = true ∨ b = 0x2D := by
  rw [encode_digits, List.mem_append, signBytes] at h
  rcases h with sign | digit
  · split at sign
    · exact .inr (List.mem_singleton.mp sign)
    · exact absurd sign List.not_mem_nil
  · exact .inl (isDigit_of_mem_digitBytes b digit)

theorem signed_natAbs (n : Int) :
    (if decide (n < 0) then -(n.natAbs : Int) else n.natAbs) = n := by
  rcases Int.lt_or_le n 0 with negative | natural
  · rw [if_pos (decide_eq_true negative), Int.ofNat_natAbs_of_nonpos (Int.le_of_lt negative), Int.neg_neg]
  · rw [decide_eq_false (Int.not_lt.mpr natural), if_neg Bool.false_ne_true, Int.natAbs_of_nonneg natural]

theorem numberToken_int {n : Int} (fits : intFits n = true) :
    numberToken (encode (digits n)) = some (.number (some (.int n))) := by
  have notMinusZero : (decide (n < 0) && n.natAbs == 0) = false := by
    rw [Bool.and_eq_false_iff, decide_eq_false_iff_not, beq_eq_false_iff_ne]
    omega
  have parts := numberToken_eq n [] (.inl rfl)
  rw [List.append_nil] at parts
  rw [encode_digits, parts]
  simp only [List.isEmpty_nil, if_true, numberValue, List.append_nil, digitsValue_digitBytes,
    signed_natAbs, fits, notMinusZero, Bool.and_self, Bool.not_false]

theorem exponentValue_digits (n : Int) : exponentValue (encode (digits n)) = some n := by
  have all : (digitBytes n.natAbs).all isDigit = true :=
    List.all_eq_true.mpr isDigit_of_mem_digitBytes
  obtain ⟨b, rest, form, isDigit, -⟩ := digitBytes_eq_cons n.natAbs
  have value := digitsValue_digitBytes n.natAbs
  have some_digits : digitBytes n.natAbs ≠ [] := by rw [form]; exact List.cons_ne_nil _ _
  rw [encode_digits, signBytes]
  by_cases negative : n < 0
  · rw [if_pos negative, List.singleton_append]
    simp only [exponentValue, some_digits, all, ne_eq, not_false_eq_true, and_self, if_true, value]
    congr 1
    omega
  · have notPlus : b ≠ 0x2B := digit_ne isDigit (by decide)
    have notMinus : b ≠ 0x2D := digit_ne isDigit (by decide)
    rw [if_neg negative, List.nil_append, exponentValue.eq_def]
    split
    · next heq => rw [form] at heq; exact absurd (List.cons.inj heq).1 notPlus
    · next heq => rw [form] at heq; exact absurd (List.cons.inj heq).1 notMinus
    · rw [if_pos ⟨some_digits, all⟩, value]
      congr 1
      omega

theorem numberToken_decimal {significand exponent : Int}
    (fits : decimalFits significand.natAbs exponent = true) :
    numberToken (encode (digits significand ++ 'e' :: digits exponent)) =
      some (.number (some (.decimal significand exponent))) := by
  have e : encode ('e' :: digits exponent) = 0x65 :: encode (digits exponent) := rfl
  rw [Utf8.encode_append, encode_digits, e, numberToken_eq significand _ (.inr rfl)]
  simp only [List.isEmpty_cons, List.drop_one, List.tail_cons, exponentValue_digits, Option.map_some]
  simp only [numberValue, List.append_nil, digitsValue_digitBytes, signed_natAbs, Bool.false_and,
    List.length_nil, Int.ofNat_zero, Int.sub_zero, fits, if_true, Bool.false_eq_true, if_false]

end Depot.Json
