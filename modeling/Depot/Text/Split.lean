/-!
# Cutting texts

A text is cut at the first place where a character occurs (`cut`), or at all places where one of some
characters does (`pieces`).  The characters at which it is cut are left out.
-/

namespace Depot

/-- What stands before the first such character, and what stands behind it if there is one. -/
def cut (mark : Char) (text : List Char) : List Char × Option (List Char) :=
  let front := text.takeWhile (· ≠ mark)
  match text.drop front.length with
  | [] => (front, none)
  | _ :: back => (front, some back)

/-- What stands before the last such character, if there is one, and what stands behind it. -/
def cutLast (mark : Char) (text : List Char) : Option (List Char) × List Char :=
  let back := (text.reverse.takeWhile (· ≠ mark)).reverse
  if back.length < text.length then (some (text.take (text.length - back.length - 1)), back)
  else (none, back)

/-- The first character put in front of the first piece. -/
def putFirst (c : Char) : List (List Char) → List (List Char)
  | [] => [[c]]
  | piece :: rest => (c :: piece) :: rest

/-- The pieces between the separating characters: one more than there are of those. -/
def pieces (separates : Char → Bool) : List Char → List (List Char)
  | [] => [[]]
  | c :: rest =>
    if separates c then [] :: pieces separates rest else putFirst c (pieces separates rest)

end Depot
