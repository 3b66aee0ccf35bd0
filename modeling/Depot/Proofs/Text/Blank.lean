import Depot.Text.Blank
import Mathlib.Data.List.TakeWhile

/-!
# What is left of a text without its white space

`trimBlank` takes white space away from both ends of a text and nothing else (`trimBlank_split`), and it takes
all of it: what stands between white space and has none itself is what is left (`trimBlank_eq`).  So nothing is
left exactly of a text that is blank (`isEmpty_trimBlank`).
-/

namespace Depot

/-- There is nothing but white space. -/
def IsBlankText (text : List Char) : Prop := ∀ c ∈ text, isBlank c = true

theorem toList_trimBlank (s : String) : (trimBlank s).toList =
    ((s.toList.dropWhile isBlank).reverse.dropWhile isBlank).reverse :=
  String.toList_ofList

/-- What is taken away is white space at either end. -/
theorem trimBlank_split (s : String) : ∃ before after, IsBlankText before ∧ IsBlankText after ∧
    s.toList = before ++ (trimBlank s).toList ++ after := by
  have front := List.takeWhile_append_dropWhile (p := isBlank) (l := s.toList)
  have back := List.takeWhile_append_dropWhile (p := isBlank) (l := (s.toList.dropWhile isBlank).reverse)
  refine ⟨s.toList.takeWhile isBlank, ((s.toList.dropWhile isBlank).reverse.takeWhile isBlank).reverse,
    fun c hc => List.mem_takeWhile_imp hc, fun c hc => List.mem_takeWhile_imp (List.mem_reverse.mp hc), ?_⟩
  rw [toList_trimBlank, List.append_assoc, ← List.reverse_append, back, List.reverse_reverse, front]

theorem dropWhile_blank_append {blank text : List Char} (isBlankText : IsBlankText blank)
    (plain : ∀ c ∈ text, isBlank c = false) : (blank ++ text).dropWhile isBlank = text := by
  rw [List.dropWhile_append_of_pos isBlankText]
  rcases text with - | ⟨c, rest⟩
  · rfl
  · rw [List.dropWhile_cons_of_neg (by simp [plain c List.mem_cons_self])]

/-- What stands between white space and has none itself is what is left. -/
theorem trimBlank_eq {s : String} {before text after : List Char} (blankBefore : IsBlankText before)
    (blankAfter : IsBlankText after) (plain : ∀ c ∈ text, isBlank c = false)
    (split : s.toList = before ++ text ++ after) : (trimBlank s).toList = text := by
  rw [toList_trimBlank, split]
  rcases text with - | ⟨c, rest⟩
  · -- nothing at all is left
    have all : IsBlankText (before ++ [] ++ after) := by
      intro c hc
      rw [List.append_nil, List.mem_append] at hc
      exact hc.elim (blankBefore c) (blankAfter c)
    rw [List.dropWhile_eq_nil_iff.mpr all]
    rfl
  · have front : (before ++ (c :: rest) ++ after).dropWhile isBlank = (c :: rest) ++ after := by
      rw [List.append_assoc, List.dropWhile_append_of_pos blankBefore, List.cons_append,
        List.dropWhile_cons_of_neg (by simp [plain c List.mem_cons_self])]
    have blankBack : IsBlankText after.reverse := fun c hc => blankAfter c (List.mem_reverse.mp hc)
    have plainBack : ∀ d ∈ (c :: rest).reverse, isBlank d = false := fun d hd => plain d (List.mem_reverse.mp hd)
    rw [front, List.reverse_append, dropWhile_blank_append blankBack plainBack, List.reverse_reverse]

/-- Nothing is left exactly of a blank text. -/
theorem isEmpty_trimBlank (s : String) : (trimBlank s).isEmpty = true ↔ IsBlankText s.toList := by
  rw [String.isEmpty_iff]
  constructor
  · intro empty
    obtain ⟨before, after, blankBefore, blankAfter, split⟩ := trimBlank_split s
    rw [split, empty]
    intro c hc
    simp only [String.toList_empty, List.append_nil, List.mem_append] at hc
    exact hc.elim (blankBefore c) (blankAfter c)
  · intro blank
    have left : (trimBlank s).toList = [] := by
      rw [toList_trimBlank, List.dropWhile_eq_nil_iff.mpr blank]
      rfl
    exact String.toList_eq_nil_iff.mp left

end Depot
