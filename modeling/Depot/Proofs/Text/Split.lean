import Depot.Text.Split
import Mathlib.Data.List.TakeWhile

/-!
# What texts are cut into

A text without the mark is not cut (`cut_of_not_mem`), and what is added behind a text with the mark comes behind
the cut (`cut_append_of_mem`).  The pieces of a text hold no separating character
(`plain_of_mem_pieces`), and a separating character behind a text adds one more piece, which is empty
(`pieces_concat`).
-/

namespace Depot

theorem cut_of_not_mem {mark : Char} {text : List Char} (unmarked : mark ∉ text) : cut mark text = (text, none) := by
  have all : text.takeWhile (· ≠ mark) = text := by
    rw [List.takeWhile_eq_self_iff]
    intro c hc
    have other : c ≠ mark := fun same => unmarked (same ▸ hc)
    simp [other]
  simp only [cut, all, List.drop_length]

theorem cut_append_cons {mark : Char} {front : List Char} (unmarked : mark ∉ front) (back : List Char) :
    cut mark (front ++ mark :: back) = (front, some back) := by
  have upTo : (front ++ mark :: back).takeWhile (· ≠ mark) = front := by
    rw [List.takeWhile_append_of_pos, List.takeWhile_cons_of_neg (by simp), List.append_nil]
    intro c hc
    have other : c ≠ mark := fun same => unmarked (same ▸ hc)
    simp [other]
  simp only [cut, upTo, List.drop_left]

theorem cut_append_of_mem {mark : Char} {text : List Char} (marked : mark ∈ text) (more : List Char) :
    ∃ front back, cut mark text = (front, some back) ∧ cut mark (text ++ more) = (front, some (back ++ more)) := by
  obtain ⟨front, back, rfl, unmarked⟩ := List.eq_append_cons_of_mem marked
  refine ⟨front, back, cut_append_cons unmarked back, ?_⟩
  rw [List.append_assoc]
  exact cut_append_cons unmarked (back ++ more)

section Pieces

variable {separates : Char → Bool}

theorem pieces_ne_nil (separates : Char → Bool) (text : List Char) : pieces separates text ≠ [] := by
  induction text with
  | nil => exact List.cons_ne_nil _ _
  | cons c rest ih =>
    rw [pieces]
    split
    · exact List.cons_ne_nil _ _
    · obtain ⟨piece, more, form⟩ := List.exists_cons_of_ne_nil ih
      rw [form]
      exact List.cons_ne_nil _ _

/-- No piece holds a character at which the text is cut. -/
theorem plain_of_mem_pieces {text piece : List Char} (isPiece : piece ∈ pieces separates text) :
    ∀ c ∈ piece, separates c = false := by
  induction text generalizing piece with
  | nil =>
    obtain rfl := List.mem_singleton.mp isPiece
    exact fun _ h => nomatch h
  | cons c rest ih =>
    rw [pieces] at isPiece
    split at isPiece
    · rcases List.mem_cons.mp isPiece with rfl | later
      · exact fun _ h => nomatch h
      · exact ih later
    · next plain =>
      obtain ⟨first, more, form⟩ := List.exists_cons_of_ne_nil (pieces_ne_nil separates rest)
      rw [form] at isPiece ih
      rcases List.mem_cons.mp isPiece with rfl | later
      · exact List.forall_mem_cons.mpr ⟨by simpa using plain, ih List.mem_cons_self⟩
      · exact ih (List.mem_cons_of_mem _ later)

/-- A separating character behind a text adds an empty piece. -/
theorem pieces_concat {c : Char} (separating : separates c = true) (text : List Char) :
    pieces separates (text ++ [c]) = pieces separates text ++ [[]] := by
  induction text with
  | nil => simp [pieces, separating]
  | cons d rest ih =>
    rw [List.cons_append, pieces, pieces, ih]
    split
    · rfl
    · obtain ⟨first, more, form⟩ := List.exists_cons_of_ne_nil (pieces_ne_nil separates rest)
      rw [form]
      rfl

end Pieces

end Depot
