import Depot.Disk.Path
import Depot.Upload.Source

/-!
# What is on disk

A `Disk` is a tree of directories and files, given by the absolute path of each of them, together with the
directory where relative paths start.  `Disk.find` follows a path part by part: every part is looked up in a
directory, also one that leads nowhere, so a file with a slash behind it is not found.
-/

namespace Depot

/-- What a path can lead to. -/
inductive Node where
  | file (data : Bytes)
  | directory
  deriving DecidableEq

/-- Directories and files, each under the parts of its absolute path. -/
structure Disk where
  nodes : List (List String × Node)
  /-- Where relative paths start. -/
  here : List String := []

namespace Disk

instance : Inhabited Disk := ⟨⟨[], []⟩⟩

/-- What is at an absolute place. -/
def at? (d : Disk) (place : List String) : Option Node :=
  if place.isEmpty then some .directory else d.nodes.lookup place

/-- Follow the parts of a path from a place. -/
def walk (d : Disk) (place : List String) : List String → Except IoError (List String)
  | [] => .ok place
  | part :: rest =>
    match d.at? place with
    | some .directory =>
      if part = "" ∨ part = "." then d.walk place rest
      else if part = ".." then d.walk place.dropLast rest
      else if Path.nameLimit < part.utf8ByteSize then .error .longName
      else if (d.at? (place ++ [part])).isSome then d.walk (place ++ [part]) rest
      else .error .missing
    | some (.file _) => .error .notADirectory
    | none => .error .missing

/-- The absolute place that a path leads to. -/
def resolve (d : Disk) (path : String) : Except IoError (List String) :=
  if path = "" then .error .missing
  else if path.toList.contains '\x00' then
    .error ⟨.invalidInput, "file name contained an unexpected NUL byte"⟩
  else if Path.lengthLimit < path.utf8ByteSize then .error .longName
  else d.walk (if path.toList.head? = some '/' then [] else d.here) (Path.parts path)

/-- What a path leads to. -/
def find (d : Disk) (path : String) : Except IoError Node := do
  match d.at? (← d.resolve path) with
  | some node => .ok node
  | none => .error .missing

/-- The contents of the file that a path leads to. -/
def contents? (d : Disk) (path : String) : Option Bytes :=
  match d.find path with
  | .ok (.file data) => some data
  | _ => none

/-- Put something at an absolute place, instead of what was there. -/
def put (d : Disk) (place : List String) (node : Node) : Disk :=
  { d with nodes := (place, node) :: d.nodes.filter (·.1 != place) }

/-- The absolute place to which the parts of a path lead, if all of it is there. -/
def placeOf (place : List String) : List String → List String
  | [] => place
  | part :: rest =>
    if part = "" ∨ part = "." then placeOf place rest
    else if part = ".." then placeOf place.dropLast rest
    else placeOf (place ++ [part]) rest

/-- All directories on the way to an absolute place. -/
def withWay (d : Disk) (place : List String) : Disk :=
  (List.range place.length).foldl (fun d n => d.put (place.take (n + 1)) .directory) d

/-- Delete what is at an absolute place. -/
def delete (d : Disk) (place : List String) : Disk :=
  { d with nodes := d.nodes.filter (·.1 != place) }

end Disk

end Depot
