import Depot.Proofs.Dialogue.Pact
import Depot.Proofs.Upload.Course

/-!
# Chronicles of uploads

What is known of an upload whatever its peers answer is known by its log.  A `Chronicle` says what the log
has to be like for the next step of a phase, after a failure, and when the file is there.  It has to be kept
by one step (`Chronicle.KeptBy`); what follows from that is shown here once and for all:

* `drive_honours`: by induction on the steps left, a whole drive keeps the chronicle;
* `proceed_honours`: a call adds one event, which says how it has ended (`Chronicle.Ended`);
* `insist_honours`: an upload and any number of resumptions keep a chronicle that is begun anew with every
  call, as long as a call that was stopped leaves what the next one needs.

This is to a pact what a `Course` is to a contract with a peer.
-/

namespace Depot

open Dialogue (Environment Follows Log Pact Result ask fetch tell tellAll)

variable {α : Type} {pact : Pact UploadEvent} {past : Log UploadEvent} {Q : α → Log UploadEvent → Prop}

/-! ### Exchanges -/

/-- A request that carries bytes of the file. -/
def carrying (request : Request) (data : Bytes) : Request := (request.withBody (.bytes data)).withProgress

/-- What is told of the bytes that are on their way. -/
def reports (s : Session) (start length : Nat) (progress : List (Nat × Nat)) : List UploadEvent :=
  progress.map fun (loaded, total) => .progress s.id start (payloadProgress length loaded total) s.size

/-- **An exchange, and what comes next.** -/
theorem honours_exchange {request : Request}
    {k : Except HttpError Response → Dialogue UploadEvent α} :
    (exchange request >>= k).Honours pact Q past ↔
      pact.admits past request ∧ ∀ reply, pact.relies past (.sent request reply) →
        (k reply.outcome).Honours pact Q (past ++ [.sent request reply]) := by
  rw [exchange, Dialogue.honours_bind, Dialogue.honours_bind]
  rfl

/-- Sending bytes of the file is an exchange like any other, with reports behind it. -/
theorem honours_deliver {s : Session} {start length : Nat} {data : Bytes} {request : Request}
    {k : Except HttpError Response → Dialogue UploadEvent α} :
    (deliver s start data length request >>= k).Honours pact Q past ↔
      pact.admits past (carrying request data) ∧
        ∀ reply, pact.relies past (.sent (carrying request data) reply) →
          (k reply.outcome).Honours pact Q (past ++ .sent (carrying request data) reply ::
            (reports s start length reply.progress).map .told) := by
  have reported (reply : Reply) :
      (tellAll (reports s start length reply.progress) >>= fun _ => k reply.outcome).Honours pact Q
          (past ++ [.sent (carrying request data) reply]) ↔
        (k reply.outcome).Honours pact Q (past ++ .sent (carrying request data) reply ::
          (reports s start length reply.progress).map .told) := by
    rw [Dialogue.honours_bind, Dialogue.honours_tellAll, List.append_assoc]
    rfl
  simp only [← reported]
  rw [deliver, Dialogue.honours_bind, Dialogue.honours_bind]
  simp only [Dialogue.honours_bind]
  rfl

/-- **A read, and what comes next.** -/
theorem honours_fetch {source : ByteSource} {start stop : Nat}
    {k : Except IoError Bytes → Dialogue UploadEvent α} :
    (fetch source start stop >>= k).Honours pact Q past ↔
      ∀ outcome, pact.relies past (.read source start stop outcome) →
        (k outcome).Honours pact Q (past ++ [.read source start stop outcome]) := by
  rw [Dialogue.honours_bind, Dialogue.honours_fetch]

/-- What an initiation comes to, by the reply to its request. -/
def initiated (chunkSize : ChunkSize) (id : SessionId) (target : UploadTarget) (file : UploadFile)
    (reply : Reply) : Initiated :=
  match reply.outcome.bind Response.record with
  | .error cause => .failed (.server cause)
  | .ok answer => readInitiation chunkSize id target file answer

/-- To open an upload is one exchange. -/
theorem honours_initiate {chunkSize : ChunkSize} {id : SessionId} {target : UploadTarget}
    {file : UploadFile} {Q : Initiated → Log UploadEvent → Prop} :
    (initiate chunkSize id target file).Honours pact Q past ↔
      pact.admits past (initiationRequest target file) ∧
        ∀ reply, pact.relies past (.sent (initiationRequest target file) reply) →
          Q (initiated chunkSize id target file reply)
            (past ++ [.sent (initiationRequest target file) reply]) := by
  have read (reply : Reply) (log : Log UploadEvent) :
      (match reply.outcome.bind Response.record with
        | .error cause => pure (.failed (.server cause))
        | .ok answer => pure (readInitiation chunkSize id target file answer) :
          Dialogue UploadEvent Initiated).Honours pact Q log ↔
        Q (initiated chunkSize id target file reply) log := by
    rw [initiated]
    split <;> rfl
  simp only [← read]
  exact honours_exchange

/-! ### Chronicles -/

/-- What the log of an upload is like on its way. -/
structure Chronicle where
  /-- The session can take the step of this phase. -/
  ready : Phase → Session → Log UploadEvent → Prop
  /-- The session is left by a step of this phase that failed. -/
  stopped : Phase → Session → Log UploadEvent → Prop
  /-- The session may end with this record. -/
  arrived : SessionId → Record → Log UploadEvent → Prop

namespace Chronicle

variable (chronicle : Chronicle)

/-- After a step in this phase. -/
def AfterStep (phase : Phase) {bound : Nat} : StepResult bound → Log UploadEvent → Prop
  | .next phase s _, log => chronicle.ready phase s log
  | .finished s file, log => chronicle.arrived s.id file log
  | .failed _ s, log => chronicle.stopped phase s log

/-- After a drive. -/
def AfterDrive : Uploader.Outcome → Log UploadEvent → Prop
  | .finished session file, log => chronicle.arrived session file log
  | .suspended _ failedIn s, log => chronicle.stopped failedIn s log

/-- How a call of an uploader ends that drives a session. -/
inductive Ended (u : Uploader) : Uploader.After Record → Log UploadEvent → Prop
  | finished {session : SessionId} {file : Record} {log : Log UploadEvent}
      (arrived : chronicle.arrived session file log) :
      Ended u (.ok file, { u with state := .complete }) (log ++ [.told (.complete session file)])
  | suspended {cause : StepError} {failedIn : Phase} {s : Session} {log : Log UploadEvent}
      (stopped : chronicle.stopped failedIn s log) :
      Ended u (.error (.transfer cause), { u with state := .suspended failedIn s })
        (log ++ [.told (.error s.id cause.message cause.status?)])

/-- Every step of a session that is ready keeps the chronicle. -/
def KeptBy (pact : Pact UploadEvent) (chunkSize : ChunkSize) : Prop :=
  ∀ phase s past, chronicle.ready phase s past →
    (step chunkSize s phase).Honours pact (chronicle.AfterStep phase) past

variable {chronicle} {chunkSize : ChunkSize}

/-! ### Drives -/

theorem driveWithin_honours (kept : chronicle.KeptBy pact chunkSize) {bound : Nat} {phase : Phase}
    {s : Session} (enough : s.stepsLeft phase < bound) (ready : chronicle.ready phase s past) :
    (Uploader.driveWithin chunkSize bound phase s enough).Honours pact chronicle.AfterDrive past := by
  -- a step that is not the last leaves a session with fewer steps, so the bound goes down with them
  induction bound generalizing phase s past with
  | zero => exact absurd enough (Nat.not_lt_zero _)
  | succ bound ih =>
    rw [Uploader.driveWithin, Dialogue.honours_bind]
    refine (kept phase s past ready).mono ?_
    intro result log after
    rcases result with ⟨phase, s, fewer⟩ | ⟨s, file⟩ | ⟨cause, s⟩
    · exact ih _ after
    · exact after
    · exact after

theorem drive_honours (kept : chronicle.KeptBy pact chunkSize) {phase : Phase} {s : Session}
    (ready : chronicle.ready phase s past) :
    (Uploader.drive chunkSize phase s).Honours pact chronicle.AfterDrive past :=
  driveWithin_honours kept _ ready

/-! ### Calls -/

theorem proceed_honours {u : Uploader} (kept : chronicle.KeptBy pact u.chunkSize) {phase : Phase}
    {s : Session} (ready : chronicle.ready phase s past) :
    (u.proceed phase s).Honours pact (chronicle.Ended u) past := by
  rw [Uploader.proceed, Dialogue.honours_bind]
  refine (drive_honours kept ready).mono ?_
  intro outcome log after
  rcases outcome with ⟨session, file⟩ | ⟨cause, failedIn, s⟩
  · exact .finished after
  · exact .suspended after

/-- What an uploader is left with between two calls, where a chronicle is begun with every call. -/
inductive Between (since : Log UploadEvent → Chronicle) (u : Uploader) : Log UploadEvent → Prop
  | complete {earlier log : Log UploadEvent} {session : SessionId} {file : Record}
      (state : u.state = .complete) (arrived : (since earlier).arrived session file log) :
      Between since u (log ++ [.told (.complete session file)])
  | suspended {earlier log : Log UploadEvent} {cause : StepError} {failedIn : Phase} {s : Session}
      (state : u.state = .suspended failedIn s) (stopped : (since earlier).stopped failedIn s log) :
      Between since u (log ++ [.told (.error s.id cause.message cause.status?)])

/-- How a call ends that was made with this past. -/
inductive CallEnded (since : Log UploadEvent → Chronicle) (earlier : Log UploadEvent) :
    Uploader.After Record → Log UploadEvent → Prop
  | driven {u : Uploader} {after : Uploader.After Record} {log : Log UploadEvent}
      (ended : (since earlier).Ended u after log) : CallEnded since earlier after log
  /-- The upload is complete, so there is nothing to resume. -/
  | refused {u : Uploader} (state : u.state = .complete) (between : Between since u earlier) :
      CallEnded since earlier (.error (.notResumable .complete), u) earlier

/-- What has to be shown of an upload and its resumptions. -/
structure Upkeep (pact : Pact UploadEvent) (since : Log UploadEvent → Chronicle) (target : UploadTarget)
    (file : UploadFile) : Prop where
  steps : ∀ earlier chunkSize, (since earlier).KeptBy pact chunkSize
  initiation : pact.admits [] (initiationRequest target file)
  opened : ∀ chunkSize id reply, pact.relies [] (.sent (initiationRequest target file) reply) →
    ∃ phase s, initiated chunkSize id target file reply = .opened phase s ∧
      (since []).ready phase s [.sent (initiationRequest target file) reply]
  /-- A call that was stopped leaves what the next one needs. -/
  resumable : ∀ earlier failedIn s log e, (since earlier).stopped failedIn s log →
    (since (log ++ [.told e])).ready (s.resumeAt failedIn) s (log ++ [.told e])

section Calls

variable {since : Log UploadEvent → Chronicle} {target : UploadTarget} {file : UploadFile} {u : Uploader}

theorem CallEnded.between {earlier log : Log UploadEvent} {after : Uploader.After Record}
    (h : CallEnded since earlier after log) : Between since after.2 log := by
  cases h with
  | driven ended =>
    cases ended with
    | finished arrived => exact .complete rfl arrived
    | suspended stopped => exact .suspended rfl stopped
  | refused state between => exact between

variable (upkeep : Upkeep pact since target file)

include upkeep

theorem execute_honours : (u.execute target file).Honours pact (CallEnded since []) [] := by
  let begun : Uploader := { u with sessions := u.sessions + 1 }
  rw [Uploader.execute, Dialogue.honours_bind, honours_initiate]
  refine ⟨upkeep.initiation, fun reply relied => ?_⟩
  obtain ⟨phase, s, opened, ready⟩ := upkeep.opened u.chunkSize ⟨u.sessions + 1⟩ reply relied
  rw [opened]
  exact (proceed_honours (u := begun) (upkeep.steps _ _) ready).mono fun _ _ ended => .driven ended

theorem resume_honours (between : Between since u past) :
    u.resume.Honours pact (CallEnded since past) past := by
  rw [Uploader.resume]
  -- what was left by the call before decides whether there is anything to resume
  cases between with
  | complete state arrived =>
    rw [state]
    exact .refused state (.complete state arrived)
  | suspended state stopped =>
    rw [state]
    refine (proceed_honours (upkeep.steps _ _) (upkeep.resumable _ _ _ _ _ stopped)).mono ?_
    exact fun _ _ ended => .driven ended

/-- **An upload and any number of resumptions** keep what every step keeps. -/
theorem insist_honours (resumes : Nat) : (u.insist target file resumes).Honours pact
    (fun after log => Between since after.2 log) [] := by
  induction resumes with
  | zero => exact (execute_honours upkeep).mono fun _ _ ended => ended.between
  | succ n ih =>
    rw [Uploader.insist, Dialogue.honours_bind]
    refine ih.mono ?_
    rintro ⟨result, u'⟩ log between
    exact (resume_honours upkeep between).mono fun _ _ ended => ended.between

end Calls

end Chronicle

/-! ### The last call -/

/-- A call of an uploader, behind the log of the calls before it. -/
structure Uploader.Called (σ : Type) where
  earlier : Log UploadEvent
  result : Result σ UploadEvent (Uploader.After Record)

/-- The log of the call and of those before it. -/
def Uploader.Called.log {σ : Type} (c : Uploader.Called σ) : Log UploadEvent := c.earlier ++ c.result.log

namespace Uploader

variable {σ : Type} (env : Environment σ) (u : Uploader) (target : UploadTarget) (file : UploadFile) (t : σ)

/-- The last call of an upload and so many resumptions. -/
def lastCall : (resumes : Nat) → Called σ
  | 0 => ⟨[], (u.execute target file).run env t⟩
  | n + 1 =>
    let before := (u.insist target file n).run env t
    ⟨before.log, before.value.2.resume.run env before.peer⟩

/-- What all calls come to is what the last one comes to. -/
theorem run_insist (resumes : Nat) : (u.insist target file resumes).run env t =
    { (u.lastCall env target file t resumes).result with
      log := (u.lastCall env target file t resumes).log } := by
  cases resumes with
  | zero => rfl
  | succ n =>
    rw [insist, Dialogue.run_bind]
    rfl

/-- What all calls log is the log before the last one, and then its own. -/
theorem log_lastCall (resumes : Nat) : ((u.insist target file resumes).run env t).log =
    (u.lastCall env target file t resumes).log := by
  rw [run_insist]

variable {env u target file t}

/-- **How the last call ends**, where all that is answered can be relied on. -/
theorem lastCall_ended {since : Log UploadEvent → Chronicle}
    (upkeep : Chronicle.Upkeep pact since target file) {resumes : Nat}
    (relied : Follows pact.relies [] ((u.insist target file resumes).run env t).log) :
    let last := u.lastCall env target file t resumes
    Chronicle.CallEnded since last.earlier last.result.value last.log := by
  rw [log_lastCall, Called.log, Dialogue.follows_append] at relied
  obtain ⟨before, last⟩ := relied
  cases resumes with
  | zero => exact ((Chronicle.execute_honours upkeep).run env t last).2
  | succ n =>
    have between := ((Chronicle.insist_honours upkeep n).run env t before).2
    exact ((Chronicle.resume_honours upkeep between).run env _ last).2

end Uploader

end Depot
