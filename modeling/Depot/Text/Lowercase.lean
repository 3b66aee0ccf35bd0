import Depot.Text.CaseTable
import Depot.Text.Run

/-!
# Small letters

The lower-case form of a text is taken letter by letter, with two exceptions.  The capital I with a dot
becomes two characters.  The capital sigma becomes the sigma for the end of a word if it stands there: if a
letter with case comes before it and none behind it, where marks and apostrophes do not count.

So the lower-case form of a part of a text need not be a part of the lower-case form of the text.
-/

namespace Depot

/-- A letter with a case. -/
def isCased (c : Char) : Bool := inRuns casedRuns c.toNat

/-- A character that does not count at the end of a word. -/
def isCaseIgnorable (c : Char) : Bool := inRuns ignorableRuns c.toNat

/-- The small form of one character by itself. -/
def lowerChar (c : Char) : List Char :=
  if c.toNat < 0x80 then [c.toLower]
  else if c = '\u0130' then ['i', '\u0307']
  else
    match lowerRuns.find? fun run =>
        run.1 ≤ c.toNat ∧ c.toNat ≤ run.2.1 ∧ (c.toNat - run.1) % run.2.2.1 = 0 with
    | some run => [Char.ofNat ((c.toNat : Int) + run.2.2.2).toNat]
    | none => [c]

/-- A letter with case comes first, apart from characters that do not count. -/
def startsCased (text : List Char) : Bool :=
  match text.dropWhile isCaseIgnorable with
  | c :: _ => isCased c
  | [] => false

/-- The small letters of a text; the first argument is what stands before it, last character first. -/
def lowerBehind : List Char → List Char → List Char
  | _, [] => []
  | before, c :: rest =>
    if c = 'Σ' then
      (if startsCased before && !startsCased rest then 'ς' else 'σ') :: lowerBehind (c :: before) rest
    else lowerChar c ++ lowerBehind (c :: before) rest

/-- A text in small letters. -/
def lowercase (text : List Char) : List Char := lowerBehind [] text

/-- The second text occurs in the first. -/
def hasInside (text needle : List Char) : Bool :=
  needle.isPrefixOf text ||
    match text with
    | [] => false
    | _ :: rest => hasInside rest needle

end Depot
