import Depot.Text.Split

/-!
# Paths

A path is a text whose parts are separated by slashes.  Empty parts and parts that are a single dot lead
nowhere, so they do not count when the name at the end of a path is looked for.
-/

namespace Depot.Path

/-- The parts of a path, the ones that lead nowhere included. -/
def parts (path : String) : List String := (pieces (· = '/') path.toList).map String.ofList

/-- The parts that lead somewhere. -/
def steps (path : String) : List String := (parts path).filter fun p => p != "" && p != "."

/-- The number of bytes that a name can have. -/
def nameLimit : Nat := 255

/-- The number of bytes that a path can have. -/
def lengthLimit : Nat := 4095

/-- The name at the end of a path, unless it ends at a root or with a step upwards. -/
def fileName? (path : String) : Option String :=
  match (steps path).getLast? with
  | some ".." => none
  | name => name

/-- What a name has behind its last dot; a dot at the very beginning does not count. -/
def extensionOf? (name : String) : Option String :=
  let chars := name.toList.reverse
  let extension := chars.takeWhile (· != '.')
  if extension.length + 1 < chars.length then some (String.ofList extension.reverse) else none

/-- The extension of the name at the end of a path. -/
def extension? (path : String) : Option String := (fileName? path).bind extensionOf?

end Depot.Path
