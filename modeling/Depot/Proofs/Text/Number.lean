import Depot.Peer.Listing
import Depot.Text.Numeral

/-!
# Numbers that were written are read back

`toString` writes a number in decimal digits.  `readNatural` reads it again as long as it is below the limit
(`readNatural_toString`), and so does `numeral?` without a limit (`numeral?_toDigits`).  The digits are taken
off from the right, as in `Nat.base_induction`, so a reader is first cut in two (`readDigits_append`).

The other way round, `readNatural` reads a number where a text writes one below the limit, and nowhere else
(`readNatural_eq_ok_iff`).
-/

namespace Depot

/-- Digits in two pieces are read one piece after the other. -/
theorem readDigits_append (limit n : Nat) (front back : List Char) :
    readDigits limit n (front ++ back) = (readDigits limit n front).bind (readDigits limit · back) := by
  induction front generalizing n with
  | nil => rfl
  | cons c front ih =>
    simp only [List.cons_append, readDigits]
    split
    · split
      · exact ih _
      · rfl
    · rfl

theorem readDigits_digitChar {limit n d : Nat} (hd : d < 10) (fits : n * 10 + d < limit) :
    readDigits limit n [d.digitChar] = .ok (n * 10 + d) := by
  have isDigit : d.digitChar.isDigit = true := by simpa [Nat.isDigit_digitChar] using hd
  have value : d.digitChar.toNat - 48 = d := Nat.toNat_digitChar_sub_48_of_lt_ten hd
  simp [readDigits, isDigit, value, fits]

theorem readDigits_digitChar_tooLarge {limit n d : Nat} (hd : d < 10) (big : limit ≤ n * 10 + d) :
    readDigits limit n [d.digitChar] = .error .tooLarge := by
  have isDigit : d.digitChar.isDigit = true := by simpa [Nat.isDigit_digitChar] using hd
  have value : d.digitChar.toNat - 48 = d := Nat.toNat_digitChar_sub_48_of_lt_ten hd
  simp [readDigits, isDigit, value, Nat.not_lt.mpr big]

theorem readDigits_toDigits {limit n : Nat} (fits : n < limit) :
    readDigits limit 0 (Nat.toDigits 10 n) = .ok n := by
  induction n using Nat.base_induction 10 (by decide) with
  | single d hd =>
    rw [Nat.toDigits_of_lt_base hd]
    simpa using readDigits_digitChar (n := 0) hd (by simpa using fits)
  | digit n d hd hn ih =>
    rw [← Nat.toDigits_append_toDigits (by decide) hn hd, readDigits_append, ih (by omega),
      Nat.toDigits_of_lt_base hd]
    show readDigits limit n [d.digitChar] = _
    rw [readDigits_digitChar hd (by omega), Nat.mul_comm]

/-- A number beyond the limit is found out at one of its digits. -/
theorem readDigits_toDigits_tooLarge {limit n : Nat} (big : limit ≤ n) :
    readDigits limit 0 (Nat.toDigits 10 n) = .error .tooLarge := by
  induction n using Nat.base_induction 10 (by decide) with
  | single d hd =>
    rw [Nat.toDigits_of_lt_base hd]
    exact readDigits_digitChar_tooLarge hd (by omega)
  | digit n d hd hn ih =>
    rw [← Nat.toDigits_append_toDigits (by decide) hn hd, readDigits_append,
      Nat.toDigits_of_lt_base hd]
    rcases Nat.lt_or_ge n limit with fits | big'
    · rw [readDigits_toDigits fits]
      exact readDigits_digitChar_tooLarge hd (by omega)
    · rw [ih big']
      rfl

/-- A number is written without a sign, so all of it is read as digits. -/
theorem readNatural_eq_readDigits (limit n : Nat) :
    readNatural limit (toString n) = readDigits limit 0 (Nat.toDigits 10 n) := by
  have digits : (toString n).toList = Nat.toDigits 10 n := by
    rw [Nat.toString_eq_repr, Nat.toList_repr]
  have first : (Nat.toDigits 10 n).head? ≠ some '+' := by
    intro h
    have := Nat.isDigit_of_mem_toDigits (by decide) (by decide) (List.mem_of_head? h)
    exact absurd this (by decide)
  rw [readNatural, digits]
  rcases h : Nat.toDigits 10 n with - | ⟨c, rest⟩
  · exact absurd h Nat.toDigits_ne_nil
  · rw [h] at first
    have notPlus : c ≠ '+' := by simpa using first
    split <;> simp_all

/-- **A number is read back as it was written.** -/
theorem readNatural_toString {limit n : Nat} (fits : n < limit) :
    readNatural limit (toString n) = .ok n := by
  rw [readNatural_eq_readDigits, readDigits_toDigits fits]

theorem readNatural_toString_tooLarge {limit n : Nat} (big : limit ≤ n) :
    readNatural limit (toString n) = .error .tooLarge := by
  rw [readNatural_eq_readDigits, readDigits_toDigits_tooLarge big]

theorem digitValue_digitChar {d : Nat} (hd : d < 10) : digitValue d.digitChar = some d := by
  have isDigit : d.digitChar.isDigit = true := by simpa [Nat.isDigit_digitChar] using hd
  have value : d.digitChar.toNat - 48 = d := Nat.toNat_digitChar_sub_48_of_lt_ten hd
  rw [digitValue, if_pos isDigit]
  exact congrArg some value

/-- **A numeral is read back as it was written**, whatever its size. -/
theorem numeral?_toDigits (n : Nat) : numeral? 10 (Nat.toDigits 10 n) = some n := by
  have given : (Nat.toDigits 10 n).isEmpty = false := by
    simp
  rw [numeral?, given, if_neg Bool.false_ne_true]
  clear given
  induction n using Nat.base_induction 10 (by decide) with
  | single d hd =>
    rw [Nat.toDigits_of_lt_base hd]
    simp [digitValue_digitChar hd, hd]
  | digit n d hd hn ih =>
    rw [← Nat.toDigits_append_toDigits (by decide) hn hd, List.foldlM_append, ih,
      Nat.toDigits_of_lt_base hd]
    simp [digitValue_digitChar hd, hd, Nat.mul_comm]

/-! ### What is read as a number -/

theorem le_ofDigitChars (digits : List Char) (n : Nat) : n ≤ Nat.ofDigitChars 10 digits n := by
  induction digits generalizing n with
  | nil => exact Nat.le_refl n
  | cons c rest ih =>
    rw [Nat.ofDigitChars_cons]
    have := ih (10 * n + (c.toNat - '0'.toNat))
    omega

/-- Digits are read as what they write, if that stays below the limit: it never shrinks on the way. -/
theorem readDigits_eq_ok_iff {limit n m : Nat} (fits : n < limit) (digits : List Char) :
    readDigits limit n digits = .ok m ↔
      (∀ c ∈ digits, c.isDigit = true) ∧ Nat.ofDigitChars 10 digits n = m ∧ m < limit := by
  induction digits generalizing n with
  | nil =>
    simp only [readDigits, Except.ok.injEq, Nat.ofDigitChars_nil, List.not_mem_nil, false_implies,
      implies_true, true_and]
    constructor
    · rintro rfl
      exact ⟨rfl, fits⟩
    · exact And.left
  | cons c rest ih =>
    rw [readDigits, Nat.ofDigitChars_cons, List.forall_mem_cons, Nat.mul_comm 10 n]
    by_cases digit : c.isDigit = true
    · rw [if_pos digit]
      by_cases below : n * 10 + (c.toNat - '0'.toNat) < limit
      · rw [if_pos below, ih below]
        simp [digit]
      · rw [if_neg below]
        constructor
        · intro h
          cases h
        · rintro ⟨-, value, small⟩
          have := le_ofDigitChars rest (n * 10 + (c.toNat - '0'.toNat))
          omega
    · rw [if_neg digit]
      constructor
      · intro h
        cases h
      · rintro ⟨⟨isDigit, -⟩, -⟩
        exact absurd isDigit digit

/-- Some decimal digits that write a number. -/
structure WritesDigits (digits : List Char) (n : Nat) : Prop where
  given : digits ≠ []
  digit : ∀ c ∈ digits, c.isDigit = true
  value : Nat.ofDigitChars 10 digits 0 = n

/-- The text writes a number: decimal digits, with a plus sign in front if one likes. -/
def WritesNatural (text : List Char) (n : Nat) : Prop :=
  WritesDigits text n ∨ ∃ digits, text = '+' :: digits ∧ WritesDigits digits n

theorem readDigits_eq_ok_iff_writesDigits {limit n : Nat} (positive : 0 < limit) {digits : List Char}
    (given : digits ≠ []) : readDigits limit 0 digits = .ok n ↔ WritesDigits digits n ∧ n < limit := by
  rw [readDigits_eq_ok_iff positive]
  constructor
  · rintro ⟨digit, value, small⟩
    exact ⟨⟨given, digit, value⟩, small⟩
  · rintro ⟨⟨-, digit, value⟩, small⟩
    exact ⟨digit, value, small⟩

/-- A plus sign is no digit, so what stands behind it writes the number. -/
theorem writesNatural_plus {digits : List Char} {n : Nat} :
    WritesNatural ('+' :: digits) n ↔ WritesDigits digits n := by
  constructor
  · rintro (signless | ⟨_, form, writes⟩)
    · exact absurd (signless.digit '+' List.mem_cons_self) (by decide)
    · rwa [(List.cons.inj form).2]
  · exact fun writes => .inr ⟨digits, rfl, writes⟩

/-- **What is read as a number** is what writes one below the limit. -/
theorem readNatural_eq_ok_iff {limit n : Nat} (positive : 0 < limit) (text : String) :
    readNatural limit text = .ok n ↔ WritesNatural text.toList n ∧ n < limit := by
  rw [readNatural]
  rcases text.toList with - | ⟨c, rest⟩
  case nil =>
    constructor
    · intro h
      cases h
    · rintro ⟨⟨given, -⟩ | ⟨_, form, -⟩, -⟩
      · exact absurd rfl given
      · cases form
  case cons =>
    by_cases plus : c = '+'
    · subst plus
      rw [writesNatural_plus]
      rcases rest with - | ⟨d, rest⟩
      · -- a plus sign alone
        constructor
        · intro h
          cases h
        · rintro ⟨⟨given, -⟩, -⟩
          exact absurd rfl given
      · exact readDigits_eq_ok_iff_writesDigits positive (List.cons_ne_nil d rest)
    · have signless : WritesNatural (c :: rest) n ↔ WritesDigits (c :: rest) n := by
        constructor
        · rintro (writes | ⟨_, form, -⟩)
          · exact writes
          · exact absurd (List.cons.inj form).1 plus
        · exact .inl
      rw [signless, ← readDigits_eq_ok_iff_writesDigits positive (List.cons_ne_nil c rest)]
      split <;> simp_all

/-! ### Numbers in queries -/

/-- A number in the query of a request is found by whoever answers it. -/
theorem Listing.queryNatural_eq {request : Request} {key : String} {n : Nat}
    (given : request.queryValue? key = some (toString n)) (fits : n < limit64) :
    queryNatural request key = n := by
  rw [queryNatural, given]
  show (readNatural limit64 (toString n)).toOption.getD 0 = n
  rw [readNatural_toString fits]
  rfl

/-- A number that does not fit counts as zero. -/
theorem Listing.queryNatural_tooLarge {request : Request} {key : String} {n : Nat}
    (given : request.queryValue? key = some (toString n)) (big : limit64 ≤ n) :
    queryNatural request key = 0 := by
  rw [queryNatural, given]
  show (readNatural limit64 (toString n)).toOption.getD 0 = 0
  rw [readNatural_toString_tooLarge big]
  rfl

end Depot
