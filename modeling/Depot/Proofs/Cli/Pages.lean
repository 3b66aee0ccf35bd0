import Depot.Cli.Pages
import Depot.Peer.Listing
import Depot.Proofs.Text.Lowercase

/-!
# What the filter by name finds

A record whose name has the wanted text inside should be found, whatever the letters around it.  It is, unless
the text has an exposed sigma (`IsExposed`): names and wanted texts are compared in small letters, and a capital
sigma at the edge of the wanted text may have another small form in a name.  Such a text is not found in every
name that has it inside (`found_wherever_inside_iff`).
-/

namespace Depot.Record

open Listing (namedRecord)

theorem name?_namedRecord (id name : String) : (namedRecord id name).name? = some name := rfl

theorem nameContains_eq {r : Record} {name : String} (has : r.name? = some name) (needle : String) :
    r.nameContains needle = hasInside (lowercase name.toList) (lowercase needle.toList) := by
  rw [nameContains, has]
  rfl

/-- **A text is found in every name that has it inside, exactly if none of its sigmas is exposed.** -/
theorem found_wherever_inside_iff (needle : String) :
    (∀ (r : Record) (name : String), r.name? = some name → needle.toList <:+: name.toList →
        r.nameContains needle = true) ↔
      ∀ front back, needle.toList = front ++ 'Σ' :: back → ¬ IsExposed front back := by
  constructor
  · intro found front back split exposed
    -- the name that puts a letter where it changes the sigma
    have hidden : ∃ name : List Char, needle.toList <:+: name ∧ ¬ lowercase needle.toList <:+: lowercase name := by
      rw [split]
      rcases exposed with ⟨starts, ignorable⟩ | ⟨ignorable, ends⟩
      · exact ⟨_, ⟨[], ['a'], rfl⟩, lowercase_not_infix_letter_behind starts ignorable⟩
      · exact ⟨_, ⟨['a'], [], by simp⟩, lowercase_not_infix_letter_before ignorable ends⟩
    obtain ⟨name, inside, lost⟩ := hidden
    have accepted := found (namedRecord "1" (String.ofList name)) _ (name?_namedRecord _ _)
      (by rwa [String.toList_ofList])
    rw [nameContains_eq (name?_namedRecord _ _), String.toList_ofList, hasInside_iff] at accepted
    exact lost accepted
  · rintro sheltered r name has ⟨before, after, split⟩
    rw [nameContains_eq has, hasInside_iff, ← split, ← lowerWithin_eq_lowercase sheltered before.reverse after]
    exact lowerWithin_infix before needle.toList after

/-- A name that begins with the wanted text and is not found: the sigma ends the wanted text, but not the name. -/
theorem inside_but_not_found : ¬ ∀ (needle : String) (r : Record) (name : String), r.name? = some name →
    needle.toList <:+: name.toList → r.nameContains needle = true := by
  intro found
  have accepted := found "ΑΣ" (namedRecord "1" "ΑΣΑ") _ (name?_namedRecord _ _) ⟨[], ['Α'], rfl⟩
  have refused : (namedRecord "1" "ΑΣΑ").nameContains "ΑΣ" = false := by decide +kernel
  rw [refused] at accepted
  cases accepted

end Depot.Record
