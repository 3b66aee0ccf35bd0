import Depot.Proofs.Upload.Chronicle
import Mathlib.Logic.ExistsUnique

/-!
# How a call of an uploader ends

Whatever is called on an uploader, in whatever order, and whatever its peers answer, a call ends in exactly
one of five ways (`Verdict`), and the way in which it ends decides what was told, what the uploader holds
afterwards, and what had been asked (`EndedAs`).

Two facts about a single step carry this: on the way nothing is told but how far the bytes have come
(`Reported`), and a session stays the session of one upload (`Session.Continues`).  The one event that closes
a call is told by the call itself.
-/

namespace Depot

open Dialogue (Log Environment Pact requests events exchanges)

/-! ### What a step keeps, and what it tells -/

/-- The session is of the same upload. -/
structure Session.Continues (s s₀ : Session) : Prop where
  id : s.id = s₀.id
  file : s.file = s₀.file
  target : s.target = s₀.target
  uploadId : s.uploadId = s₀.uploadId
  behavior : s.behavior = s₀.behavior

theorem Session.Continues.refl (s : Session) : s.Continues s := ⟨rfl, rfl, rfl, rfl, rfl⟩

/-- The event says how far the bytes of a session have come. -/
def UploadEvent.Reports (session : SessionId) : UploadEvent → Prop
  | chunkSent s _ _ => s = session
  | progress s _ _ _ => s = session
  | _ => False

/-- Nothing has been told but how far the bytes of a session have come. -/
def Reported (session : SessionId) (log : Log UploadEvent) : Prop :=
  ∀ e ∈ events log, e.Reports session

namespace Reported

variable {session : SessionId} {s : Session} {log : Log UploadEvent} {request : Request} {reply : Reply}
  {source : ByteSource} {start stop length bytes acknowledged : Nat} {outcome : Except IoError Bytes}

theorem sent (h : Reported session log) : Reported session (log ++ [.sent request reply]) := by
  simpa [Reported] using h

theorem read (h : Reported session log) :
    Reported session (log ++ [.read source start stop outcome]) := by
  simpa [Reported] using h

theorem chunkSent (h : Reported session log) :
    Reported session (log ++ [.told (.chunkSent session bytes acknowledged)]) := by
  intro e member
  rw [Dialogue.events_append, List.mem_append] at member
  rcases member with earlier | last
  · exact h e earlier
  · obtain rfl : e = .chunkSent session bytes acknowledged := List.mem_singleton.mp last
    rfl

/-- The reports on a body are about the session that sends it. -/
theorem delivered (h : Reported s.id log) : Reported s.id (log ++ .sent request reply ::
    (reports s start length reply.progress).map .told) := by
  intro e member
  rw [Dialogue.events_append, Dialogue.events_sent, Dialogue.events_map_told, List.mem_append] at member
  rcases member with earlier | report
  · exact h e earlier
  · obtain ⟨_, -, rfl⟩ := List.mem_map.mp report
    rfl

end Reported

/-- The steps of an upload are steps of one session, and tell nothing but reports. -/
def reporting (s₀ : Session) : Chronicle where
  ready _ s log := s.Continues s₀ ∧ Reported s.id log
  stopped _ s log := s.Continues s₀ ∧ Reported s.id log
  arrived session _ log := session = s₀.id ∧ Reported session log

section Steps

variable {s s₀ : Session} {log : Log UploadEvent} {chunkSize : ChunkSize} {m : Multipart} {bound : Nat}
  (same : s.Continues s₀) (reported : Reported s.id log)

include same reported

theorem askOffset_reports (h : s.mode = .server) :
    (askOffset s h).Honours .any ((reporting s₀).AfterStep .authorizing) log := by
  refine honours_exchange.2 ⟨trivial, fun reply _ => ?_⟩
  split
  · exact ⟨same, reported.sent⟩
  · split
    · exact ⟨same, reported.sent⟩
    · exact ⟨{ same with }, reported.sent⟩

theorem askSignature_reports (h : ∃ r, s.mode = .single r) :
    (askSignature s h).Honours .any ((reporting s₀).AfterStep .authorizing) log := by
  refine honours_exchange.2 ⟨trivial, fun reply _ => ?_⟩
  split
  · exact ⟨same, reported.sent⟩
  · exact ⟨{ same with }, reported.sent⟩

theorem sendChunk_reports (h : s.mode = .server) :
    (sendChunk chunkSize s h).Honours .any ((reporting s₀).AfterStep .transferring) log := by
  refine honours_fetch.2 fun outcome _ => ?_
  rcases outcome with cause | data
  · exact ⟨{ same with }, reported.read⟩
  refine honours_deliver.2 ⟨trivial, fun reply _ => ?_⟩
  rcases reply.outcome with cause | answer
  · exact ⟨{ same with }, reported.read.delivered⟩
  rw [Dialogue.honours_bind, Dialogue.honours_tell]
  split
  · split
    · exact ⟨{ same with }, reported.read.delivered.chunkSent⟩
    · exact ⟨same.id, reported.read.delivered.chunkSent⟩
  · exact ⟨{ same with }, reported.read.delivered.chunkSent⟩

theorem sendWhole_reports {signed : SignedRequest} (h : s.mode = .single signed) :
    (sendWhole s signed h).Honours .any ((reporting s₀).AfterStep .transferring) log := by
  refine honours_fetch.2 fun outcome _ => ?_
  rcases outcome with cause | data
  · exact ⟨{ same with }, reported.read⟩
  rcases signed.toRequest? with - | request
  · exact ⟨{ same with }, reported.read⟩
  refine honours_deliver.2 ⟨trivial, fun reply _ => ?_⟩
  rcases reply.outcome with cause | answer
  · exact ⟨{ same with }, reported.read.delivered⟩
  · exact ⟨{ same with }, reported.read.delivered.chunkSent⟩

theorem completeWhole_reports : (completeWhole s : Dialogue UploadEvent (StepResult bound)).Honours .any
    ((reporting s₀).AfterStep .completing) log := by
  refine honours_exchange.2 ⟨trivial, fun reply _ => ?_⟩
  split
  · exact ⟨same, reported.sent⟩
  · exact ⟨same.id, reported.sent⟩

theorem askParts_reports (h : s.mode = .multipart m) :
    (askParts s h).Honours .any ((reporting s₀).AfterStep .authorizing) log := by
  refine honours_exchange.2 ⟨trivial, fun reply _ => ?_⟩
  split
  · exact ⟨same, reported.sent⟩
  · exact ⟨same, reported.sent⟩

theorem openStorage_reports (h : s.mode = .multipart m) (closed : m.storageId = none) :
    (openStorage s m h closed).Honours .any ((reporting s₀).AfterStep .transferring) log := by
  rw [openStorage]
  split
  · exact ⟨same, reported⟩
  refine honours_exchange.2 ⟨trivial, fun reply _ => ?_⟩
  rcases reply.outcome with cause | answer
  · exact ⟨same, reported.sent⟩
  simp only []
  split
  · exact ⟨same, reported.sent⟩
  · exact ⟨{ same with }, reported.sent⟩

theorem sendPart_reports {storageId : String} (h : s.mode = .multipart m)
    (opened : m.storageId = some storageId) :
    (sendPart s m storageId h opened).Honours .any ((reporting s₀).AfterStep .transferring) log := by
  refine honours_exchange.2 ⟨trivial, fun reply _ => ?_⟩
  split
  · exact ⟨same, reported.sent⟩
  split
  · exact ⟨same, reported.sent⟩
  refine honours_fetch.2 fun outcome _ => ?_
  rcases outcome with cause | data
  · exact ⟨same, reported.sent.read⟩
  simp only []
  split
  · exact ⟨{ same with }, reported.sent.read⟩
  refine honours_deliver.2 ⟨trivial, fun reply _ => ?_⟩
  rcases reply.outcome with cause | answer
  · exact ⟨{ same with }, reported.sent.read.delivered⟩
  simp only []
  split
  · exact ⟨{ same with }, reported.sent.read.delivered⟩
  rw [Dialogue.honours_bind, Dialogue.honours_tell]
  split
  · exact ⟨{ same with }, reported.sent.read.delivered.chunkSent⟩
  · exact ⟨{ same with }, reported.sent.read.delivered.chunkSent⟩

theorem sendManifest_reports {file : Record} {signed : SignedRequest} :
    (sendManifest s m file signed : Dialogue UploadEvent (StepResult bound)).Honours .any
      ((reporting s₀).AfterStep .completing) log := by
  rw [sendManifest]
  split
  · exact ⟨same, reported⟩
  refine honours_exchange.2 ⟨trivial, fun reply _ => ?_⟩
  rcases reply.outcome with cause | answer
  · exact ⟨same, reported.sent⟩
  · exact ⟨same.id, reported.sent⟩

theorem completeParts_reports : (completeParts s m : Dialogue UploadEvent (StepResult bound)).Honours .any
    ((reporting s₀).AfterStep .completing) log := by
  rw [completeParts]
  split
  · exact sendManifest_reports same reported
  refine honours_exchange.2 ⟨trivial, fun reply _ => ?_⟩
  split
  · exact ⟨same, reported.sent⟩
  split
  · exact ⟨same, reported.sent⟩
  · next file signed _ =>
    let m' := { m with finalize := some (file, signed) }
    have pending : { s with mode := .multipart m' }.Continues s₀ := { same with }
    exact sendManifest_reports pending reported.sent

end Steps

/-- **A step tells nothing but reports**, and stays with its session. -/
theorem reporting_kept (s₀ : Session) (chunkSize : ChunkSize) :
    (reporting s₀).KeptBy .any chunkSize := by
  rintro phase s log ⟨same, reported⟩
  cases phase with
  | authorizing =>
    rw [step]
    split
    · next h => exact askOffset_reports same reported h
    · next r h => exact askSignature_reports same reported ⟨r, h⟩
    · next m h => exact askParts_reports same reported h
  | transferring =>
    rw [step]
    split
    · next h => exact sendChunk_reports same reported h
    · next r h => exact sendWhole_reports same reported h
    · next m h =>
      rw [sendNextPart]
      split
      · next closed => exact openStorage_reports same reported h closed
      · next storageId opened => exact sendPart_reports same reported h opened
  | completing =>
    rw [step]
    split
    · exact ⟨same, reported⟩
    · exact completeWhole_reports same reported
    · exact completeParts_reports same reported

/-! ### Calls -/

namespace Uploader

/-- What can be called on an uploader. -/
inductive Call where
  | execute (target : UploadTarget) (file : UploadFile)
  | resume
  | abort

namespace Call

/-- What a call comes back with, and the uploader behind it.  Only an upload comes back with a record. -/
def on (u : Uploader) : Call → Dialogue UploadEvent (After (Option Record))
  | execute target file => do
    let (result, u) ← u.execute target file
    return (result.map some, u)
  | resume => do
    let (result, u) ← u.resume
    return (result.map some, u)
  | abort => do
    let (result, u) ← u.abort
    return (result.map fun _ => none, u)

/-- The session that a call is about. -/
def session? (u : Uploader) : Call → Option SessionId
  | execute _ _ => some ⟨u.sessions + 1⟩
  | resume => u.state.session?.map (·.id)
  | abort => none

/-- The session goes on with what the call began or found. -/
def Keeps (u : Uploader) (s : Session) : Call → Prop
  | execute target file => s.target = target ∧ s.file = file
  | resume => ∃ s₀, u.state.session? = some s₀ ∧ s.Continues s₀
  | abort => False

end Call

/-- One call after the other. -/
def perform : List Call → Uploader → Dialogue UploadEvent Uploader
  | [], u => return u
  | call :: rest, u => do perform rest (← call.on u).2

/-- The ways in which a call may end. -/
inductive Verdict where
  | finished
  | unstarted
  | suspended
  | refused
  | dropped
  deriving DecidableEq

/-- The way in which a call has ended, by what it came back with. -/
def Verdict.of : Call → Except UploadError (Option Record) → Verdict
  | .abort, _ => .dropped
  | _, .ok _ => .finished
  | _, .error (.start _) => .unstarted
  | _, .error (.transfer _) => .suspended
  | _, .error (.notResumable _) => .refused
  | _, .error (.abort _) => .dropped

/-- What it means that a call of an uploader ended in some way, with this log. -/
inductive EndedAs (call : Call) (before : Uploader) :
    Verdict → After (Option Record) → Log UploadEvent → Prop
  /-- The file is there, and its record is told last. -/
  | finished {session : SessionId} {file : Record} {u : Uploader} {log : Log UploadEvent}
      {progress : List UploadEvent}
      (about : call.session? before = some session) (complete : u.state = .complete)
      (told : events log = progress ++ [.complete session file])
      (reported : ∀ e ∈ progress, e.Reports session) :
      EndedAs call before .finished (.ok (some file), u) log
  /-- Nothing but the initiation was asked for, and why it failed is all that is told. -/
  | unstarted {target : UploadTarget} {file : UploadFile} {session : SessionId} {cause : StepError}
      {u : Uploader} {log : Log UploadEvent}
      (called : call = .execute target file) (about : call.session? before = some session)
      (idle : u.state = .idle) (asked : requests log = [initiationRequest target file])
      (told : events log =
        [.errorStarting session cause.message cause.identifier? cause.status?]) :
      EndedAs call before .unstarted (.error (.start cause), u) log
  /-- The session is kept with all that a resumption needs, and why it was stopped is told last. -/
  | suspended {s : Session} {failedIn : Phase} {cause : StepError} {u : Uploader}
      {log : Log UploadEvent} {progress : List UploadEvent}
      (about : call.session? before = some s.id) (keeps : call.Keeps before s)
      (waits : u.state = .suspended failedIn s)
      (resumable : u.state.resumeInfo? = some ⟨s.uploadId, s.file⟩)
      (told : events log = progress ++ [.error s.id cause.message cause.status?])
      (reported : ∀ e ∈ progress, e.Reports s.id) :
      EndedAs call before .suspended (.error (.transfer cause), u) log
  /-- There was nothing to resume, and nothing happened. -/
  | refused (called : call = .resume) (unsuspended : before.state.status ≠ .suspended) :
      EndedAs call before .refused (.error (.notResumable before.state.status), before) []
  /-- What was there is dropped, and the server is told, once, if it knows of it. -/
  | dropped {result : Except UploadError (Option Record)} {u : Uploader} {log : Log UploadEvent}
      (called : call = .abort) (idle : u.state = .idle)
      (returned : result = .ok none ∨ ∃ cause, result = .error (.abort cause))
      (asked : requests log =
        before.state.session?.toList.map fun s => Request.delete s!"file/upload/{s.uploadId}")
      (told : events log = []) :
      EndedAs call before .dropped (result, u) log

variable {call : Call} {before u : Uploader} {verdict : Verdict} {after : After (Option Record)}
  {log : Log UploadEvent}

/-- What a call comes back with decides in which way it has ended. -/
theorem EndedAs.eq_of (h : EndedAs call before verdict after log) :
    verdict = Verdict.of call after.1 := by
  cases h with
  | finished about =>
    cases call with
    | abort => cases about
    | execute | resume => rfl
  | unstarted called =>
    rw [called]
    rfl
  | suspended about =>
    cases call with
    | abort => cases about
    | execute | resume => rfl
  | refused called =>
    rw [called]
    rfl
  | dropped called =>
    rw [called]
    rfl

/-- A session that was driven is finished or suspended, with one event behind the reports. -/
theorem endedAs_of_ended {s₀ : Session} {driven : After Record} (about : call.session? before = some s₀.id)
    (keeps : ∀ s : Session, s.Continues s₀ → call.Keeps before s)
    (ended : (reporting s₀).Ended u driven log) :
    ∃ verdict, EndedAs call before verdict (driven.1.map some, driven.2) log := by
  cases ended with
  | @finished session file log arrived =>
    obtain ⟨rfl, reported⟩ := arrived
    exact ⟨.finished, .finished about rfl (Dialogue.events_append _ _) reported⟩
  | @suspended cause failedIn s log stopped =>
    obtain ⟨same, reported⟩ := stopped
    rw [← same.id] at about
    exact ⟨.suspended, .suspended about (keeps s same) rfl rfl (Dialogue.events_append _ _) reported⟩

/-- An opened session is that of the upload that was begun. -/
theorem readInitiation_opened {chunkSize : ChunkSize} {id : SessionId} {target : UploadTarget}
    {file : UploadFile} {answer : Record} {phase : Phase} {s : Session}
    (opened : readInitiation chunkSize id target file answer = .opened phase s) :
    s.id = id ∧ s.target = target ∧ s.file = file := by
  unfold readInitiation at opened
  split at opened
  · cases opened
  split at opened
  · cases opened
  split at opened
  · cases opened
  · cases opened
    exact ⟨rfl, rfl, rfl⟩

theorem initiated_opened {chunkSize : ChunkSize} {id : SessionId} {target : UploadTarget}
    {file : UploadFile} {reply : Reply} {phase : Phase} {s : Session}
    (opened : initiated chunkSize id target file reply = .opened phase s) :
    s.id = id ∧ s.target = target ∧ s.file = file := by
  unfold initiated at opened
  split at opened
  · cases opened
  · exact readInitiation_opened opened

theorem execute_ends (target : UploadTarget) (file : UploadFile) :
    ((Call.execute target file).on u).Honours .any
      (fun after log => ∃ verdict, EndedAs (.execute target file) u verdict after log) [] := by
  let begun : Uploader := { u with sessions := u.sessions + 1 }
  rw [Call.on, Dialogue.honours_bind, Uploader.execute, Dialogue.honours_bind, honours_initiate]
  refine ⟨trivial, fun reply _ => ?_⟩
  rcases opening : initiated u.chunkSize ⟨u.sessions + 1⟩ target file reply with record | ⟨phase, s⟩ | cause
  · exact ⟨.finished, .finished rfl rfl (List.nil_append _).symm (List.forall_mem_nil _)⟩
  · obtain ⟨sameId, sameTarget, sameFile⟩ := initiated_opened opening
    have ready : (reporting s).ready phase s [.sent (initiationRequest target file) reply] :=
      ⟨.refl s, List.forall_mem_nil _⟩
    refine (Chronicle.proceed_honours (u := begun) (reporting_kept s u.chunkSize) ready).mono ?_
    intro driven log ended
    refine endedAs_of_ended ?_ ?_ ended
    · rw [Call.session?, sameId]
    · intro s' same
      exact ⟨same.target.trans sameTarget, same.file.trans sameFile⟩
  · exact ⟨.unstarted, .unstarted rfl rfl rfl rfl rfl⟩

theorem resume_ends : (Call.resume.on u).Honours .any
    (fun after log => ∃ verdict, EndedAs .resume u verdict after log) [] := by
  rw [Call.on, Dialogue.honours_bind, Uploader.resume]
  split
  · next failedIn s state =>
    have ready : (reporting s).ready (s.resumeAt failedIn) s [] :=
      ⟨.refl s, List.forall_mem_nil _⟩
    refine (Chronicle.proceed_honours (reporting_kept s u.chunkSize) ready).mono ?_
    intro driven log ended
    have held : u.state.session? = some s := by rw [state]; rfl
    refine endedAs_of_ended ?_ ?_ ended
    · rw [Call.session?, held]
      rfl
    · intro s' same
      exact ⟨s, held, same⟩
  · next other =>
    refine ⟨.refused, .refused rfl ?_⟩
    rcases state : u.state with - | - | ⟨failedIn, s⟩
    · rintro ⟨⟩
    · rintro ⟨⟩
    · exact absurd state (other failedIn s)

theorem abort_ends : (Call.abort.on u).Honours .any
    (fun after log => ∃ verdict, EndedAs .abort u verdict after log) [] := by
  rw [Call.on, Dialogue.honours_bind, Uploader.abort]
  split
  · next nothing =>
    refine ⟨.dropped, .dropped rfl rfl (.inl rfl) ?_ rfl⟩
    rw [nothing]
    rfl
  · next s held =>
    rw [Dialogue.honours_bind, Dialogue.honours_ask]
    refine ⟨trivial, fun reply _ => ?_⟩
    have asked : [Request.delete s!"file/upload/{s.uploadId}"] =
        u.state.session?.toList.map fun s => Request.delete s!"file/upload/{s.uploadId}" := by
      rw [held]
      rfl
    split
    · exact ⟨.dropped, .dropped rfl rfl (.inl rfl) asked rfl⟩
    · next cause _ => exact ⟨.dropped, .dropped rfl rfl (.inr ⟨cause, rfl⟩) asked rfl⟩

/-- **A call ends in exactly one way**, whatever was called before it and whatever is answered. -/
theorem ends_in_one_way {σ : Type} (env : Environment σ) (t : σ) (chunkSize : ChunkSize)
    (earlier : List Call) (call : Call) :
    let past := (perform earlier (new chunkSize)).run env t
    let now := (call.on past.value).run env past.peer
    ∃! verdict, EndedAs call past.value verdict now.value now.log := by
  intro past now
  have ends : (call.on past.value).Honours .any
      (fun after log => ∃ verdict, EndedAs call past.value verdict after log) [] := by
    cases call with
    | execute target file => exact execute_ends target file
    | resume => exact resume_ends
    | abort => exact abort_ends
  obtain ⟨-, verdict, ended⟩ := ends.run env past.peer (Dialogue.follows_any _ _)
  -- there is no second way, since what the call came back with decides it
  refine ⟨verdict, ended, ?_⟩
  intro other otherwise
  exact otherwise.eq_of.trans ended.eq_of.symm

end Uploader

end Depot
