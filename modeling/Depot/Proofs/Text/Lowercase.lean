import Depot.Text.Lowercase

/-!
# The small letters of a part of a text

The small form of a capital sigma depends on what stands around it (`sigmaBetween`), that of any other
character does not.  So a part of a text has its small letters in the text (`lowerWithin`, `lowerBehind_append`),
and they are those that it has alone if each of its capital sigmas has the same small form
(`lowerWithin_congr`).

Around a sigma only the first character counts that is not ignorable (`startsCased_append`).  If the part itself
has such a character on either side, what is put around the part changes nothing.
-/

namespace Depot

/-! ### Texts inside texts -/

theorem hasInside_iff {text needle : List Char} : hasInside text needle = true ↔ needle <:+: text := by
  induction text with
  | nil => simp [hasInside]
  | cons c rest ih => simp [hasInside, ih, List.infix_cons_iff]

/-! ### Small letters between other texts -/

/-- The small form of a capital sigma between two texts, of which the first one is given last character first. -/
def sigmaBetween (before after : List Char) : Char :=
  if startsCased before && !startsCased after then 'ς' else 'σ'

theorem lowerBehind_sigma (before rest : List Char) :
    lowerBehind before ('Σ' :: rest) = sigmaBetween before rest :: lowerBehind ('Σ' :: before) rest := by
  rw [lowerBehind, if_pos rfl]
  rfl

theorem lowerBehind_other {c : Char} (other : c ≠ 'Σ') (before rest : List Char) :
    lowerBehind before (c :: rest) = lowerChar c ++ lowerBehind (c :: before) rest := by
  rw [lowerBehind, if_neg other]

/-- The small letters of a text that stands between two others, of which the first one is given last character
first. -/
def lowerWithin (before text after : List Char) : List Char :=
  match text with
  | [] => []
  | c :: rest =>
    (if c = 'Σ' then [sigmaBetween before (rest ++ after)] else lowerChar c) ++ lowerWithin (c :: before) rest after

/-- A text in front of another is written in its small letters there. -/
theorem lowerBehind_append (before text after : List Char) :
    lowerBehind before (text ++ after) =
      lowerWithin before text after ++ lowerBehind (text.reverse ++ before) after := by
  induction text generalizing before with
  | nil => rfl
  | cons c rest ih =>
    have step : lowerBehind (c :: before) (rest ++ after) =
        lowerWithin (c :: before) rest after ++ lowerBehind ((c :: rest).reverse ++ before) after := by
      rw [ih, List.reverse_cons, List.append_assoc, List.singleton_append]
    by_cases sigma : c = 'Σ'
    · subst sigma
      rw [List.cons_append, lowerBehind_sigma, step, lowerWithin, if_pos rfl]
      rfl
    · rw [List.cons_append, lowerBehind_other sigma, step, lowerWithin, if_neg sigma, List.append_assoc]

theorem lowercase_eq (text : List Char) : lowercase text = lowerWithin [] text [] := by
  have alone := lowerBehind_append [] text []
  rw [List.append_nil, lowerBehind, List.append_nil] at alone
  exact alone

theorem lowerWithin_append (before text more after : List Char) :
    lowerWithin before (text ++ more) after =
      lowerWithin before text (more ++ after) ++ lowerWithin (text.reverse ++ before) more after := by
  induction text generalizing before with
  | nil => rfl
  | cons c rest ih =>
    rw [List.cons_append, lowerWithin, lowerWithin, ih, List.reverse_cons, List.append_assoc, List.append_assoc,
      List.append_assoc, List.singleton_append]

/-- The small letters of a part occur in the small letters of the text. -/
theorem lowerWithin_infix (before text after : List Char) :
    lowerWithin before.reverse text after <:+: lowercase (before ++ text ++ after) := by
  rw [lowercase, List.append_assoc, lowerBehind_append, lowerBehind_append, List.append_nil]
  exact ⟨_, _, List.append_assoc _ _ _⟩

/-! ### Contexts that agree -/

/-- **A text has the same small letters in two places** in which each of its capital sigmas has the same form. -/
theorem lowerWithin_congr {before before' text after after' : List Char}
    (same : ∀ front back, text = front ++ 'Σ' :: back →
      sigmaBetween (front.reverse ++ before) (back ++ after) =
        sigmaBetween (front.reverse ++ before') (back ++ after')) :
    lowerWithin before text after = lowerWithin before' text after' := by
  induction text generalizing before before' with
  | nil => rfl
  | cons c rest ih =>
    have behind : lowerWithin (c :: before) rest after = lowerWithin (c :: before') rest after' := by
      apply ih
      intro front back split
      have here := same (c :: front) back (by rw [split, List.cons_append])
      simpa using here
    rw [lowerWithin, lowerWithin, behind]
    by_cases sigma : c = 'Σ'
    · subst sigma
      have here := same [] rest rfl
      rw [List.reverse_nil, List.nil_append, List.nil_append] at here
      rw [here]
    · rw [if_neg sigma, if_neg sigma]

/-- How often a small sigma occurs can only shrink where no capital sigma takes this form on. -/
theorem count_lowerWithin_le {k : Char} {before before' text after after' : List Char}
    (only : ∀ front back, text = front ++ 'Σ' :: back →
      sigmaBetween (front.reverse ++ before) (back ++ after) = k →
        sigmaBetween (front.reverse ++ before') (back ++ after') = k) :
    (lowerWithin before text after).count k ≤ (lowerWithin before' text after').count k := by
  induction text generalizing before before' with
  | nil => exact Nat.le_refl _
  | cons c rest ih =>
    have behind : (lowerWithin (c :: before) rest after).count k ≤
        (lowerWithin (c :: before') rest after').count k := by
      apply ih
      intro front back split
      have here := only (c :: front) back (by rw [split, List.cons_append])
      simpa using here
    rw [lowerWithin, lowerWithin, List.count_append, List.count_append]
    by_cases sigma : c = 'Σ'
    · subst sigma
      have here := only [] rest rfl
      rw [List.reverse_nil, List.nil_append, List.nil_append] at here
      rw [if_pos rfl, if_pos rfl, List.count_singleton, List.count_singleton]
      refine Nat.add_le_add ?_ behind
      split
      · next takes => exact if_pos (beq_iff_eq.mpr (here (beq_iff_eq.mp takes))) ▸ Nat.le_refl 1
      · exact Nat.zero_le _
    · rw [if_neg sigma, if_neg sigma]
      omega

/-- It does shrink where a capital sigma loses this form. -/
theorem count_lowerWithin_lt {k : Char} {before before' front back after after' : List Char}
    (only : ∀ front' back', front ++ 'Σ' :: back = front' ++ 'Σ' :: back' →
      sigmaBetween (front'.reverse ++ before) (back' ++ after) = k →
        sigmaBetween (front'.reverse ++ before') (back' ++ after') = k)
    (lost : sigmaBetween (front.reverse ++ before) (back ++ after) ≠ k)
    (had : sigmaBetween (front.reverse ++ before') (back ++ after') = k) :
    (lowerWithin before (front ++ 'Σ' :: back) after).count k <
      (lowerWithin before' (front ++ 'Σ' :: back) after').count k := by
  have inFront : (lowerWithin before front ('Σ' :: back ++ after)).count k ≤
      (lowerWithin before' front ('Σ' :: back ++ after')).count k := by
    apply count_lowerWithin_le
    intro front' back' split
    have here := only front' (back' ++ 'Σ' :: back) (by simp [split])
    simpa using here
  have behind : (lowerWithin ('Σ' :: (front.reverse ++ before)) back after).count k ≤
      (lowerWithin ('Σ' :: (front.reverse ++ before')) back after').count k := by
    apply count_lowerWithin_le
    intro front' back' split
    have here := only (front ++ 'Σ' :: front') back' (by simp [split])
    simpa using here
  have unlike : (sigmaBetween (front.reverse ++ before) (back ++ after) == k) = false := by simpa using lost
  rw [lowerWithin_append, lowerWithin_append, lowerWithin, lowerWithin, if_pos rfl, if_pos rfl]
  simp only [List.count_append, List.count_singleton, unlike, had, beq_self_eq_true, if_true]
  simp only [Bool.false_eq_true, if_false]
  omega

/-! ### What counts around a sigma -/

/-- All characters of the text are ignorable. -/
def IsIgnorable (text : List Char) : Prop := ∀ c ∈ text, isCaseIgnorable c = true

instance (text : List Char) : Decidable (IsIgnorable text) := inferInstanceAs (Decidable (∀ c ∈ text, _))

theorem startsCased_ignorable_append {text : List Char} (ignorable : IsIgnorable text) (more : List Char) :
    startsCased (text ++ more) = startsCased more := by
  rw [startsCased, List.dropWhile_append_of_pos ignorable]
  rfl

/-- Behind a character that is not ignorable nothing counts. -/
theorem startsCased_append {text : List Char} (counts : ¬ IsIgnorable text) (more : List Char) :
    startsCased (text ++ more) = startsCased text := by
  induction text with
  | nil => exact absurd (fun _ h => nomatch h) counts
  | cons c rest ih =>
    by_cases ignorable : isCaseIgnorable c = true
    · have further : ¬ IsIgnorable rest := fun all => counts (List.forall_mem_cons.mpr ⟨ignorable, all⟩)
      have skip (text : List Char) : startsCased (c :: text) = startsCased text :=
        startsCased_ignorable_append (List.forall_mem_singleton.mpr ignorable) text
      rw [List.cons_append, skip, skip, ih further]
    · rw [startsCased, startsCased, List.cons_append, List.dropWhile_cons_of_neg ignorable,
        List.dropWhile_cons_of_neg ignorable]

theorem startsCased_ignorable {text : List Char} (ignorable : IsIgnorable text) : startsCased text = false := by
  rw [← List.append_nil text, startsCased_ignorable_append ignorable]
  rfl

/-! ### Sigmas whose form hangs on the place of the text -/

/-- A capital sigma between the two parts of a text may have another form where the text stands inside another:
it stands at the end of a word, and so far no letter follows; or it does not, and so far none comes before it. -/
def IsExposed (front back : List Char) : Prop :=
  (startsCased front.reverse = true ∧ IsIgnorable back) ∨ (IsIgnorable front ∧ startsCased back = false)

theorem sigmaBetween_of_not_exposed {front back : List Char} (sheltered : ¬ IsExposed front back)
    (before after : List Char) :
    sigmaBetween (front.reverse ++ before) (back ++ after) = sigmaBetween front.reverse back := by
  obtain ⟨noEnd, noStart⟩ := not_or.mp sheltered
  rw [sigmaBetween, sigmaBetween]
  by_cases frontIgnorable : IsIgnorable front
  · -- a letter follows in the text itself, so it is nowhere the end of a word
    have follows : startsCased back = true := by simpa using not_and.mp noStart frontIgnorable
    have counts : ¬ IsIgnorable back := fun all => by simp [startsCased_ignorable all] at follows
    simp [startsCased_append counts, follows]
  · have counts : ¬ IsIgnorable front.reverse := by simpa [IsIgnorable] using frontIgnorable
    rw [startsCased_append counts]
    by_cases backIgnorable : IsIgnorable back
    · -- what comes before it in the text itself is no letter
      have nothing : startsCased front.reverse = false := by
        simpa using fun starts => not_and.mp noEnd starts backIgnorable
      simp [nothing]
    · rw [startsCased_append backIgnorable]

/-- **A text without exposed sigmas has the same small letters everywhere.** -/
theorem lowerWithin_eq_lowercase {text : List Char}
    (sheltered : ∀ front back, text = front ++ 'Σ' :: back → ¬ IsExposed front back) (before after : List Char) :
    lowerWithin before text after = lowercase text := by
  rw [lowercase_eq]
  apply lowerWithin_congr
  intro front back split
  rw [List.append_nil, List.append_nil]
  exact sigmaBetween_of_not_exposed (sheltered front back split) before after

theorem startsCased_letter (text : List Char) : startsCased ('a' :: text) = true := by
  have counts : isCaseIgnorable 'a' = false := by decide +kernel
  have cased : isCased 'a' = true := by decide +kernel
  rw [startsCased, List.dropWhile_cons_of_neg (by simp [counts])]
  exact cased

/-- A sigma at the end of a word no longer stands there when a letter follows. -/
theorem lowercase_not_infix_letter_behind {front back : List Char} (starts : startsCased front.reverse = true)
    (ignorable : IsIgnorable back) :
    ¬ lowercase (front ++ 'Σ' :: back) <:+: lowercase (front ++ 'Σ' :: back ++ ['a']) := by
  intro inside
  have fewer : (lowerWithin [] (front ++ 'Σ' :: back) ['a']).count 'ς' <
      (lowerWithin [] (front ++ 'Σ' :: back) []).count 'ς' := by
    refine count_lowerWithin_lt ?only ?lost ?had
    case only =>
      -- what ends a word in front of a letter ends one without it
      intro front' back' _ ends
      rw [sigmaBetween] at ends ⊢
      by_cases back'Ignorable : IsIgnorable back'
      · simp [startsCased_ignorable_append back'Ignorable, startsCased_letter] at ends
      · rwa [startsCased_append back'Ignorable] at ends ⊢
    case lost => simp [sigmaBetween, startsCased_ignorable_append ignorable, startsCased_letter]
    case had => simp [sigmaBetween, starts, startsCased_ignorable ignorable]
  have whole : lowercase (front ++ 'Σ' :: back ++ ['a']) = lowerWithin [] (front ++ 'Σ' :: back) ['a'] ++ ['a'] := by
    rw [lowercase, lowerBehind_append]
    rfl
  have atMost := inside.sublist.count_le 'ς'
  rw [whole, List.count_append, lowercase_eq] at atMost
  have none : List.count 'ς' ['a'] = 0 := rfl
  omega

/-- A sigma that has no letter in front of it has one when a letter is put there. -/
theorem lowercase_not_infix_letter_before {front back : List Char} (ignorable : IsIgnorable front)
    (ends : startsCased back = false) :
    ¬ lowercase (front ++ 'Σ' :: back) <:+: lowercase ('a' :: (front ++ 'Σ' :: back)) := by
  intro inside
  have fewer : (lowerWithin ['a'] (front ++ 'Σ' :: back) []).count 'σ' <
      (lowerWithin [] (front ++ 'Σ' :: back) []).count 'σ' := by
    refine count_lowerWithin_lt ?only ?lost ?had
    case only =>
      -- what does not end a word behind a letter does not end one without it
      intro front' back' _ inner
      rw [sigmaBetween] at inner ⊢
      by_cases front'Ignorable : IsIgnorable front'.reverse
      · simp [startsCased_ignorable front'Ignorable]
      · rw [startsCased_append front'Ignorable] at inner ⊢
        exact inner
    case lost =>
      have reversed : IsIgnorable front.reverse := fun c hc => ignorable c (List.mem_reverse.mp hc)
      simp [sigmaBetween, startsCased_ignorable_append reversed, startsCased_letter, ends]
    case had =>
      have reversed : IsIgnorable front.reverse := fun c hc => ignorable c (List.mem_reverse.mp hc)
      simp [sigmaBetween, startsCased_ignorable reversed]
  have whole : lowercase ('a' :: (front ++ 'Σ' :: back)) = 'a' :: lowerWithin ['a'] (front ++ 'Σ' :: back) [] := by
    have split := lowerBehind_append ['a'] (front ++ 'Σ' :: back) []
    rw [List.append_nil, lowerBehind, List.append_nil] at split
    rw [lowercase, lowerBehind_other (by decide), split]
    rfl
  have atMost := inside.sublist.count_le 'σ'
  rw [whole, List.count_cons, lowercase_eq] at atMost
  have none : ('a' == 'σ') = false := rfl
  simp only [none, Bool.false_eq_true, if_false] at atMost
  omega

end Depot
