import Depot.Cli.Run

/-!
# The program

Reads the command line, looks at the environment and at the few files that matter, runs the command and
prints what it says.  It has no network of its own, so every request that can be built fails.
-/

namespace Depot.Cli

/-- How many batches a page may take. -/
def patience : Nat := 1000000

def usageText : String :=
  "Usage: girder [OPTIONS] <COMMAND>\n\n" ++
  "Commands:\n" ++
  "  list    Page through a listing endpoint\n" ++
  "  upload  Upload a local file\n\n" ++
  "Options:\n" ++
  "      --api-url <API_URL>  API root\n" ++
  "      --token <TOKEN>      Authentication token sent as Girder-Token\n" ++
  "      --timeout <TIMEOUT>  Request timeout in seconds\n" ++
  "  -h, --help               Print help\n" ++
  "  -V, --version            Print version\n"

/-- The words for a command line that is not carried out. -/
def usageErrorText : UsageError → String
  | .help => usageText
  | .version => "girder 0.4.0\n"
  | .nothingGiven => usageText
  | .missingCommand => "error: a command is required\n"
  | .unknownCommand => "error: unrecognized command\n"
  | .unknownArgument => "error: unexpected argument\n"
  | .unexpectedValue => "error: unexpected value for a switch\n"
  | .conflict => "error: an argument cannot be used again or with another one\n"
  | .missingArgument => "error: required arguments were not provided\n"
  | .missingValue => "error: a value is required\n"
  | .invalidValue reason => s!"error: invalid value: {reason}\n"

/-- What is at a path of the machine. -/
def lookAt (path : String) : IO (Option Node) := do
  try
    let data ← IO.FS.readBinFile path
    return some (.file data.toList)
  catch
    | .noFileOrDirectory .. => return none
    | _ => return some .directory

/-- The disk, as far as these paths go. -/
def lookAround (paths : List String) : IO Disk := do
  let here := (Path.parts (← IO.currentDir).toString).filter (· != "")
  let mut disk : Disk := Disk.withWay ⟨[], here⟩ here
  for path in paths do
    if let some node ← lookAt path then
      let start := if path.toList.head? = some '/' then [] else here
      let place := Disk.placeOf start (Path.parts path)
      disk := (disk.withWay place.dropLast).put place node
  return disk

/-- The paths that a command reads. -/
def pathsOf (home : String) (a : Arguments) : List String :=
  Settings.Layer.filePlaces home ++
    match a.command with
    | .upload o => [o.path]
    | .list _ => []

/-- The variables that may set something. -/
def variableNames : List String :=
  ["GIRDER_API_URL", "GIRDER_TOKEN", "GIRDER_REQUEST_TIMEOUT", "GIRDER_USER_AGENT",
    "GIRDER_PAGE_LIMIT", "GIRDER_UPLOAD_CHUNK_SIZE"]

end Depot.Cli

open Depot Depot.Cli in
/-- Run the program. -/
def main (words : List String) : IO UInt32 := do
  match Arguments.read words with
  | .error e =>
    if e = .help ∨ e = .version then
      IO.print (usageErrorText e)
      return 0
    IO.eprint (usageErrorText e)
    return 2
  | .ok a =>
    let home := (← IO.getEnv "HOME").getD "/"
    let disk ← lookAround (pathsOf home a)
    let mut found : List (String × String) := []
    for name in variableNames do
      if let some value ← IO.getEnv name then
        found := (name, value) :: found
    let (output, result) := runAlone patience ⟨disk, home, fun name => found.lookup name⟩ a
    IO.print output
    match result with
    | .ok _ => return 0
    | .error e =>
      IO.eprintln s!"Error: {e.message}"
      return 1
