import Depot.Collection.Basic
import Depot.Upload.Uploader

/-!
# What a command tells

While a command runs, it prints lines, and the collection or the uploader that it uses tells what it does.
In the end it has done its work or fails for one of the reasons of `Failure`.
-/

namespace Depot.Cli

/-- Something that a command tells. -/
inductive Told where
  /-- A line on standard output. -/
  | line (text : String)
  | collection (notice : Notice)
  | upload (event : UploadEvent)
  deriving DecidableEq

/-- The event for those who follow the program. -/
def Told.event? : Told → Option Event
  | collection (.event e) => some (.collection e)
  | upload e => some (.upload e)
  | _ => none

/-- What goes to standard output. -/
def Told.output : Told → String
  | line text => text ++ "\n"
  | _ => ""

/-- Why a command fails. -/
inductive Failure where
  | request (cause : HttpError)
  | upload (cause : UploadError)
  /-- The file at this path cannot be read. -/
  | file (path : String) (cause : IoError)
  /-- It is not clear where to upload to. -/
  | target
  /-- A page was not complete after a great many requests. -/
  | unfinished
  deriving DecidableEq

def Failure.message : Failure → String
  | request cause => cause.message
  | upload cause => cause.message
  | file path cause => s!"cannot read {path}: {cause.message}"
  | target => "give either --parent-type and --parent-id, or --file-id"
  | unfinished => "the listing does not end"

/-- Print some lines. -/
def printAll : List String → Dialogue Told Unit
  | [] => .done ()
  | text :: rest => .emit (.line text) (printAll rest)

end Depot.Cli
