import Depot.Cli.Grammar
import Depot.Settings.Basic
import Depot.Text.Number
import Depot.Text.Quoted
import Depot.Text.Split

/-!
# The command line

There are two commands: `list` (or `ls`) pages through a listing, `upload` (or `up`) takes a file to the
server.  Some options belong to the program and may stand before or behind the name of the command; if one
does both, the one behind counts.

`Arguments.read` reads the words of a command line.  What the options of the program set is a layer of the
settings, the highest one (`Arguments.layer`).
-/

namespace Depot.Cli

/-- What to list, and how. -/
structure ListOptions where
  resource : String
  /-- How many records make a page. -/
  limit : Option Nat
  /-- The field by which to sort. -/
  sort : String
  descending : Bool
  /-- More parameters of the listing. -/
  params : List (String × String)
  /-- What the names of the records must have inside. -/
  nameContains : Option String
  /-- How many pages to show. -/
  pages : Nat
  deriving DecidableEq

/-- What to upload, and where to. -/
structure UploadOptions where
  path : String
  parentType : Option String
  parentId : Option String
  fileId : Option String
  chunkSize : Option Nat
  /-- How often to go on after a failure. -/
  maxResumes : Nat
  deriving DecidableEq

inductive Command where
  | list (options : ListOptions)
  | upload (options : UploadOptions)
  deriving DecidableEq

/-- What a command line says. -/
structure Arguments where
  apiUrl : Option String
  token : Option String
  timeout : Option Nat
  command : Command
  deriving DecidableEq

/-! ### Values -/

/-- Any value. -/
def checkNothing (_ : String) : Except UsageError Unit := .ok ()

/-- A number of 64 bits. -/
def checkNatural (value : String) : Except UsageError Unit :=
  match readNatural limit64 value with
  | .ok _ => .ok ()
  | .error e => .error (.invalidValue e.message)

/-- The number that a checked value writes. -/
def natural (value : String) : Option Nat := (readNatural limit64 value).toOption

/-- A number of 32 bits. -/
def checkCount (value : String) : Except UsageError Unit :=
  match readInteger value with
  | .ok n =>
    if 0 ≤ n ∧ n < limit32 then .ok ()
    else .error (.invalidValue s!"{n} is not in 0..=4294967295")
  | .error e => .error (.invalidValue e.message)

/-- The number that a checked value writes. -/
def count (value : String) : Option Nat := (readInteger value).toOption.map Int.toNat

/-- A path, which is never empty. -/
def checkPath (value : String) : Except UsageError Unit :=
  if value.isEmpty then .error .missingValue else .ok ()

/-- The parameter that a value sets: what stands before and behind the first equals sign. -/
def parameter? (value : String) : Option (String × String) :=
  match cut '=' value.toList with
  | (c :: key, some rest) => some (String.ofList (c :: key), String.ofList rest)
  | _ => none

def checkParameter (value : String) : Except UsageError Unit :=
  if (parameter? value).isSome then .ok ()
  else .error (.invalidValue ("expected key=value, got " ++ quoted value))

/-! ### Levels -/

/-- The options of the program. -/
def programOptions : List Item :=
  [⟨"api-url", false, checkNothing⟩, ⟨"token", false, checkNothing⟩,
    ⟨"timeout", false, checkNatural⟩]

def program : Level :=
  { options := programOptions, switches := [], arguments := []
    commands := [["list", "ls"], ["upload", "up"]] }

def listLevel : Level :=
  { options := programOptions ++
      [⟨"limit", false, checkNatural⟩, ⟨"sort", false, checkNothing⟩,
        ⟨"param", true, checkParameter⟩, ⟨"name-contains", false, checkNothing⟩,
        ⟨"pages", false, checkNatural⟩]
    switches := ["desc"]
    arguments := [⟨"resource", false, checkNothing⟩]
    commands := [] }

def uploadLevel : Level :=
  { options := programOptions ++
      [⟨"parent-type", false, checkNothing⟩, ⟨"parent-id", false, checkNothing⟩,
        ⟨"file-id", false, checkNothing⟩, ⟨"chunk-size", false, checkNatural⟩,
        ⟨"max-resumes", false, checkCount⟩]
    switches := []
    arguments := [⟨"path", false, checkPath⟩]
    commands := [] }

/-! ### Commands -/

/-- All that is given at a level without commands. -/
def gatherAll (level : Level) (words : List String) : Except UsageError Gathered := do
  let (g, _) ← level.gather false (.start level) words
  g.settle

def readList (g : Gathered) : Except UsageError ListOptions :=
  match g.value? "resource" with
  | none => .error .missingArgument
  | some resource =>
    .ok {
      resource
      limit := (g.value? "limit").bind natural
      sort := (g.value? "sort").getD "name"
      descending := g.isGiven "desc"
      params := (g.values "param").filterMap parameter?
      nameContains := g.value? "name-contains"
      pages := ((g.value? "pages").bind natural).getD 1 }

/-- What is wrong with the options of an upload as a whole: a new file needs both the type and the
identifier of its parent.  The type excludes a file whose contents are replaced, and is not missed then. -/
def checkUpload (g : Gathered) : Except UsageError Unit :=
  let type := g.isGiven "parent-type"
  let id := g.isGiven "parent-id"
  let file := g.isGiven "file-id"
  if type && file then .error .conflict
  else if type != id && !(id && file) then .error .missingArgument
  else .ok ()

def readUpload (g : Gathered) : Except UsageError UploadOptions := do
  checkUpload g
  match g.value? "path" with
  | none => .error .missingArgument
  | some path =>
    return {
      path
      parentType := g.value? "parent-type"
      parentId := g.value? "parent-id"
      fileId := g.value? "file-id"
      chunkSize := (g.value? "chunk-size").bind natural
      maxResumes := ((g.value? "max-resumes").bind count).getD 3 }

/-- The command with this name, and all that is given behind it. -/
def readCommand (name : String) (words : List String) : Except UsageError (Command × Gathered) := do
  if name == "list" then
    let g ← gatherAll listLevel words
    return (.list (← readList g), g)
  else
    let g ← gatherAll uploadLevel words
    return (.upload (← readUpload g), g)

namespace Arguments

/-- What the words of a command line say. -/
def read (words : List String) : Except UsageError Arguments := do
  match ← program.gather false (.start program) words with
  | (g, none) =>
    let g ← g.settle
    if g.given.isEmpty then throw .nothingGiven else throw .missingCommand
  | (g, some (name, rest)) =>
    let (command, inner) ← readCommand name rest
    let g ← g.settle
    let value? (name : String) := (inner.value? name).or (g.value? name)
    return {
      apiUrl := value? "api-url"
      token := value? "token"
      timeout := (value? "timeout").bind natural
      command }

/-- What the options of the program set. -/
def layer (a : Arguments) : Settings.Layer :=
  { Settings.Layer.empty with
    apiUrl := a.apiUrl, token := a.token, requestTimeout := a.timeout }

end Arguments

end Depot.Cli
