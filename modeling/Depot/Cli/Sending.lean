import Depot.Cli.Arguments
import Depot.Cli.Told

/-!
# Uploading a file

The command `upload` takes one file to the server and prints the identifier of what became of it.  An upload
that fails on the way is resumed, but only so many times; if it has not come to an end then, it is dropped.
-/

namespace Depot.Cli

namespace UploadOptions

/-- Where to upload to, if that is clear. -/
def target? (o : UploadOptions) : Option UploadTarget :=
  match o.parentType, o.parentId, o.fileId with
  | some type, some id, none => some (.parent type id)
  | none, none, some file => some (.contents file)
  | _, _, _ => none

/-- The size of the chunks that are sent. -/
def chunks (o : UploadOptions) (settings : Settings) : ChunkSize :=
  .atLeastOne (o.chunkSize.getD settings.chunkSize)

end UploadOptions

/-- Resume an upload that failed, at most so many times. -/
def resumeWithin : (resumes : Nat) → Uploader.After Record → Dialogue UploadEvent (Uploader.After Record)
  | 0, after => return after
  | resumes + 1, after =>
    match after.1 with
    | .ok _ => return after
    | .error e => if e.isRecoverable then do resumeWithin resumes (← after.2.resume) else return after

/-- Drop an upload that could still be resumed.  Whether the server releases it makes no difference. -/
def dropUnfinished (after : Uploader.After Record) :
    Dialogue UploadEvent (Except UploadError Record) :=
  match after.1 with
  | .ok file => return .ok file
  | .error e => do
    if e.isRecoverable then
      let _ ← after.2.abort
    return .error e

/-- Upload a file, with so many resumptions. -/
def send (chunkSize : ChunkSize) (resumes : Nat) (target : UploadTarget) (file : UploadFile) :
    Dialogue UploadEvent (Except UploadError Record) := do
  let first ← (Uploader.new chunkSize).execute target file
  let last ← resumeWithin resumes first
  dropUnfinished last

/-- Upload a file. -/
def runUpload (disk : Disk) (settings : Settings) (o : UploadOptions) :
    Dialogue Told (Except Failure Unit) :=
  match o.target? with
  | none => return .error .target
  | some target =>
    match UploadFile.open? disk o.path with
    | .error e => return .error (.file o.path e)
    | .ok file => do
      match ← (send (o.chunks settings) o.maxResumes target file).mapEvents .upload with
      | .ok record =>
        printAll [record.id?.getD ""]
        return .ok ()
      | .error e => return .error (.upload e)

end Depot.Cli
