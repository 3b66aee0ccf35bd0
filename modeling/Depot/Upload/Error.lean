import Depot.Http.Error
import Depot.Upload.Source

/-!
# Failed uploads

A step of an upload fails for one of four causes (`StepError`): the server, the storage provider, the local
file, or an answer that does not fit (`Misfit`).  The cause decides what the user reads, which status is
reported, and whether the server named an identifier.

A whole call fails in one of four ways (`UploadError`).  Only a transfer that failed on the way may be
resumed.
-/

namespace Depot

/-- An answer that does not fit. -/
inductive Misfit where
  /-- The answer to an initiation is no upload. -/
  | badUpload (detail : String)
  /-- A storage upload without a word on the storage. -/
  | missingStorage
  /-- The server has more bytes than the file. -/
  | offsetPastEnd (offset : Nat)
  /-- A part was granted without a single byte. -/
  | emptyGrant (part : Nat)
  /-- The provider did not tag a part. -/
  | missingTag
  /-- The provider's answer to an initiation cannot be read. -/
  | badInitiation (detail : String)
  /-- The provider gave the upload an empty identifier. -/
  | emptyStorageId
  /-- A signed request whose method is none. -/
  | unsupportedMethod (method : String)
  /-- An upload through the server is to be completed, and its last chunk has brought no file. -/
  | missingFile
  /-- The completed upload comes without a signed request for the manifest. -/
  | missingFinalization
  /-- The signed request for the manifest cannot be read. -/
  | badFinalization (detail : String)
  deriving DecidableEq

def Misfit.message : Misfit → String
  | badUpload detail => s!"bad upload record: {detail}"
  | missingStorage => "storage upload without s3 details"
  | offsetPastEnd offset => s!"server offset {offset} is past the end of the file"
  | emptyGrant part => s!"part {part} authorized with zero length"
  | missingTag => "storage response carries no ETag"
  | badInitiation detail => s!"bad initiate response: {detail}"
  | emptyStorageId => "initiate response has an empty UploadId"
  | unsupportedMethod method => s!"unsupported method {method}"
  | missingFile => "final chunk returned no file"
  | missingFinalization => "completion returned no s3FinalizeRequest"
  | badFinalization detail => s!"bad finalize request: {detail}"

/-- Why a step failed. -/
inductive StepError where
  | server (cause : HttpError)
  | storage (cause : HttpError)
  | file (cause : IoError)
  | misfit (cause : Misfit)
  deriving DecidableEq

namespace StepError

instance : Inhabited StepError := ⟨.misfit .missingStorage⟩

/-- What the user reads. -/
def message : StepError → String
  | server cause =>
    if cause.isConnection then "Error: Connection to the server interrupted."
    else "Error: " ++ cause.serverMessage?.getD cause.message
  | storage cause =>
    if cause.isConnection then "Error: Could not connect to the storage provider."
    else s!"Error occurred uploading to storage ({cause.status?.getD 0})."
  | file cause => s!"Error reading file: {cause.message}"
  | misfit cause => s!"Error: {cause.message}"

def status? : StepError → Option Nat
  | server cause => cause.status?
  | storage cause => cause.status?
  | _ => none

/-- The server's name for the failure. -/
def identifier? : StepError → Option String
  | server cause => cause.identifier?
  | _ => none

end StepError

/-- What an uploader is doing between two calls. -/
inductive UploaderStatus where
  | idle
  | complete
  | suspended
  deriving DecidableEq

def UploaderStatus.text : UploaderStatus → String
  | idle => "idle"
  | complete => "complete"
  | suspended => "recoverable error"

/-- Why a call failed. -/
inductive UploadError where
  /-- The upload could not be started; there is nothing to resume. -/
  | start (cause : StepError)
  /-- A transfer failed on the way and may be resumed. -/
  | transfer (cause : StepError)
  /-- There was nothing to resume. -/
  | notResumable (status : UploaderStatus)
  /-- The server could not be told to release the upload. -/
  | abort (cause : HttpError)
  deriving DecidableEq

namespace UploadError

instance : Inhabited UploadError := ⟨.notResumable .idle⟩

def message : UploadError → String
  | start cause => cause.message
  | transfer cause => cause.message
  | notResumable status => s!"cannot resume an upload in state {status.text}"
  | abort cause => s!"failed to abort upload: {cause.message}"

/-- The call may be continued by resuming. -/
def isRecoverable : UploadError → Bool
  | transfer _ => true
  | _ => false

end UploadError

end Depot
