import Depot.Upload.Step

/-!
# Uploaders

An `Uploader` takes one file after the other to the server.  Between two calls it is idle, has completed an
upload, or holds a suspended session, one whose last step failed.

* `execute` starts an upload, whatever was there before;
* `resume` goes on with a suspended one;
* `abort` drops it and has the server release it.

Nothing is tried twice within a call: the first failed step ends it.  A failure before the server has opened
the upload leaves nothing to resume; every later one leaves a suspended session.

A call goes from step to step (`driveWithin`) for as long as the session has steps left, so it needs no fuel
and comes to an end along every line of answers.
-/

namespace Depot

open Dialogue (ask tell)

/-- What an uploader holds between two calls. -/
inductive Uploader.State where
  | idle
  | complete
  /-- A session whose step in this phase failed. -/
  | suspended (failedIn : Phase) (session : Session)
  deriving DecidableEq

/-- Takes files to the server. -/
structure Uploader where
  chunkSize : ChunkSize
  state : Uploader.State
  /-- How many sessions it has begun. -/
  sessions : Nat
  deriving DecidableEq

namespace Uploader

/-- An uploader that has not done anything. -/
def new (chunkSize : ChunkSize) : Uploader := ⟨chunkSize, .idle, 0⟩

instance : Inhabited Uploader := ⟨new .default⟩

namespace State

def status : State → UploaderStatus
  | idle => .idle
  | complete => .complete
  | suspended _ _ => .suspended

/-- The session that waits to be resumed. -/
def session? : State → Option Session
  | suspended _ s => some s
  | _ => none

/-- What a later resumption goes by. -/
def resumeInfo? (state : State) : Option ResumeInfo :=
  state.session?.map fun s => ⟨s.uploadId, s.file⟩

end State

/-! ### Driving a session -/

/-- How a call ends. -/
inductive Outcome where
  | finished (session : SessionId) (file : Record)
  | suspended (cause : StepError) (failedIn : Phase) (session : Session)

/-- Take step after step, until the file is there or a step fails. -/
def driveWithin (chunkSize : ChunkSize) :
    (bound : Nat) → (phase : Phase) → (s : Session) → s.stepsLeft phase < bound →
      Dialogue UploadEvent Outcome
  | 0, _, _, h => absurd h (Nat.not_lt_zero _)
  | bound + 1, phase, s, h => do
    match ← step chunkSize s phase with
    | .next phase s fewer => driveWithin chunkSize bound phase s (by omega)
    | .finished s file => return .finished s.id file
    | .failed cause s => return .suspended cause phase s

/-- Take a session from a phase to its end or to the first failure. -/
def drive (chunkSize : ChunkSize) (phase : Phase) (s : Session) : Dialogue UploadEvent Outcome :=
  driveWithin chunkSize (s.stepsLeft phase + 1) phase s (Nat.lt_succ_self _)

/-! ### Calls -/

/-- What a call comes back with, and the uploader afterwards. -/
abbrev After (α : Type) := Except UploadError α × Uploader

/-- The file is there. -/
def finish (u : Uploader) (session : SessionId) (file : Record) :
    Dialogue UploadEvent (After Record) := do
  tell (.complete session file)
  return (.ok file, { u with state := .complete })

/-- The upload could not be started. -/
def giveUp (u : Uploader) (session : SessionId) (cause : StepError) :
    Dialogue UploadEvent (After Record) := do
  tell (.errorStarting session cause.message cause.identifier? cause.status?)
  return (.error (.start cause), { u with state := .idle })

/-- A step failed; the session waits to be resumed. -/
def suspend (u : Uploader) (cause : StepError) (failedIn : Phase) (s : Session) :
    Dialogue UploadEvent (After Record) := do
  tell (.error s.id cause.message cause.status?)
  return (.error (.transfer cause), { u with state := .suspended failedIn s })

/-- Drive a session, and settle what it comes to. -/
def proceed (u : Uploader) (phase : Phase) (s : Session) :
    Dialogue UploadEvent (After Record) := do
  match ← drive u.chunkSize phase s with
  | .finished session file => u.finish session file
  | .suspended cause failedIn s => u.suspend cause failedIn s

/-- Upload a file.  An earlier session is dropped. -/
def execute (u : Uploader) (target : UploadTarget) (file : UploadFile) :
    Dialogue UploadEvent (After Record) := do
  let id : SessionId := ⟨u.sessions + 1⟩
  let u := { u with sessions := u.sessions + 1 }
  match ← initiate u.chunkSize id target file with
  | .created file => u.finish id file
  | .opened phase s => u.proceed phase s
  | .failed cause => u.giveUp id cause

/-- Go on with a suspended session. -/
def resume (u : Uploader) : Dialogue UploadEvent (After Record) :=
  match u.state with
  | .suspended failedIn s => u.proceed (s.resumeAt failedIn) s
  | state => return (.error (.notResumable state.status), u)

/-- Drop the session, and have the server release the upload. -/
def abort (u : Uploader) : Dialogue UploadEvent (After Unit) :=
  match u.state.session? with
  | none => return (.ok (), { u with state := .idle })
  | some s => do
    match (← ask (Request.delete s!"file/upload/{s.uploadId}")).outcome with
    | .ok _ => return (.ok (), { u with state := .idle })
    | .error cause => return (.error (.abort cause), { u with state := .idle })

end Uploader

end Depot
