import Depot.Proofs.Upload.Granted
import Depot.Proofs.Upload.Reached

/-!
# How much an upload can cost

A call of an uploader comes to an end, whatever its peers answer, and what it may cost is known before it
begins.  The measure is a `Session.budget`: the requests that can still follow from a phase on.  Every chunk
and every part comes further by at least one byte, so what is left of the file pays for them: once for a
chunk, and twice for a part, which has to be authorized first.

The loop of a call can also be taken without looking at any measure, and cut off after some steps
(`Uploader.driveFor`).  It is never cut off when a few more steps are allowed than the file has bytes.
-/

namespace Depot

open Dialogue (Log Pact Environment exchanges requests)

/-! ### What is left to pay -/

/-- No more than this many requests can follow. -/
def Session.budget (s : Session) (phase : Phase) : Nat :=
  match s.mode, phase with
  | .server, .authorizing => max 1 s.size + 1
  | .server, _ => max 1 (s.size - s.startByte)
  | .single _, .authorizing => 3
  | .single _, .transferring => 2
  | .single _, .completing => 1
  | .multipart _, .authorizing => 2 * max 1 s.size + 4
  | .multipart _, .completing => 2
  | .multipart m, .transferring =>
    if m.storageId.isNone then 2 * max 1 s.size + 3 else 2 * max 1 (s.size - s.startByte) + 2

namespace Session

variable {s : Session} {m : Multipart}

theorem budget_chunks (h : s.mode = .server) : s.budget .transferring = max 1 (s.size - s.startByte) := by
  simp only [budget, h]

theorem budget_completion {signed : SignedRequest} (h : s.mode = .single signed) :
    s.budget .completing = 1 := by
  simp only [budget, h]

theorem budget_parts {storageId : String} (h : s.mode = .multipart m) (opened : m.storageId = some storageId) :
    s.budget .transferring = 2 * max 1 (s.size - s.startByte) + 2 := by
  simp [budget, h, opened]

/-- A session that can begin to send bytes needs no more than one that has to send every byte in a part of its
own. -/
theorem budget_transferring_le (s : Session) : s.budget .transferring ≤ 2 * max 1 s.size + 3 := by
  rcases mode : s.mode with - | signed | m
  · simp only [budget, mode]; omega
  · simp only [budget, mode]; omega
  · simp only [budget, mode]; split <;> omega

/-- To ask first how to go on is one request more. -/
theorem budget_le (s : Session) (phase : Phase) : s.budget phase ≤ 2 * max 1 s.size + 4 := by
  unfold budget
  split
  -- only a multipart upload has to look whether it is open at the provider
  case h_8 => split <;> omega
  all_goals omega

end Session

/-- How many requests have been sent. -/
def spent (log : Log UploadEvent) : Nat := (exchanges log).length

theorem length_requests (log : Log UploadEvent) : (requests log).length = spent log := by
  induction log with
  | nil => rfl
  | cons h rest ih =>
    cases h with
    | sent request reply => exact congrArg (· + 1) ih
    | read source start stop outcome => exact ih
    | told e => exact ih

/-- What has been sent and what is still needed are within a limit. -/
def Affords (limit needed : Nat) (log : Log UploadEvent) : Prop := spent log + needed ≤ limit

namespace Affords

variable {limit needed less : Nat} {s : Session} {log : Log UploadEvent} {request : Request} {reply : Reply}
  {source : ByteSource} {start stop length : Nat} {outcome : Except IoError Bytes} {e : UploadEvent}

theorem mono (h : Affords limit needed log) (le : less ≤ needed) : Affords limit less log := by
  unfold Affords at *
  omega

theorem done (h : Affords limit needed log) : Affords limit 0 log := h.mono (Nat.zero_le _)

/-- A request is paid for. -/
theorem sent (h : Affords limit (needed + 1) log) :
    Affords limit needed (log ++ [.sent request reply]) := by
  simp only [Affords, spent, Dialogue.exchanges_append, Dialogue.exchanges_sent, Dialogue.exchanges_nil,
    List.length_append, List.length_singleton] at *
  omega

/-- What is told of the bytes on their way costs nothing. -/
theorem delivered (h : Affords limit (needed + 1) log) : Affords limit needed (log ++ .sent request reply ::
    (reports s start length reply.progress).map .told) := by
  simp only [Affords, spent, Dialogue.exchanges_append, Dialogue.exchanges_sent, Dialogue.exchanges_map_told,
    List.length_append, List.length_singleton] at *
  omega

theorem read (h : Affords limit needed log) :
    Affords limit needed (log ++ [.read source start stop outcome]) := by
  simpa [Affords, spent] using h

theorem told (h : Affords limit needed log) : Affords limit needed (log ++ [.told e]) := by
  simpa [Affords, spent] using h

end Affords

/-- An upload has the server drop nothing. -/
def keeping : Pact UploadEvent := ⟨fun _ request => Route.isRelease request = false, fun _ _ => True⟩

/-- What has been sent and what can follow are within a limit. -/
def within (limit : Nat) : Chronicle where
  ready phase s log := Affords limit (s.budget phase) log
  stopped _ _ log := Affords limit 0 log
  arrived _ _ log := Affords limit 0 log

/-- What is signed goes to storage, so the server drops nothing by it, whatever it carries. -/
theorem SignedRequest.isRelease_withBody {signed : SignedRequest} {request : Request}
    (sends : signed.toRequest? = some request) (body : Body) :
    Route.isRelease (request.withBody body) = false := by
  have outside : (request.withBody body).isApiRequest = false := (sent_outside sends).1
  simp [Route.isRelease, outside]

theorem SignedRequest.isRelease_carrying {signed : SignedRequest} {request : Request}
    (sends : signed.toRequest? = some request) (data : Bytes) :
    Route.isRelease (carrying request data) = false :=
  isRelease_withBody sends (.bytes data)

theorem SignedRequest.isRelease {signed : SignedRequest} {request : Request}
    (sends : signed.toRequest? = some request) : Route.isRelease request = false :=
  isRelease_withBody sends request.body

/-- Nor does it by what an upload asks it, of how to go on and at the end. -/
theorem isRelease_offsetRequest (s : Session) : Route.isRelease s.offsetRequest = false := by
  simp [Route.isRelease, Session.offsetRequest]

theorem isRelease_completionRequest (s : Session) : Route.isRelease (completionRequest s) = false := by
  simp [Route.isRelease, completionRequest]

/-! ### One step after the other -/

section Steps

variable {s : Session} {log : Log UploadEvent} {chunkSize : ChunkSize} {m : Multipart} {limit bound : Nat}

theorem askOffset_within (h : s.mode = .server) (afford : Affords limit (max 1 s.size + 1) log) :
    (askOffset s h).Honours keeping ((within limit).AfterStep .authorizing) log := by
  refine honours_exchange.2 ⟨isRelease_offsetRequest s, fun reply _ => ?_⟩
  split
  · exact afford.sent.done
  · next offset _ =>
    split
    · exact afford.sent.done
    · have rest : max 1 (s.size - offset) ≤ max 1 s.size := by omega
      exact (afford.sent.mono rest).mono (Nat.le_of_eq (Session.budget_chunks h))

theorem askSignature_within (h : ∃ r, s.mode = .single r) (afford : Affords limit 3 log) :
    (askSignature s h).Honours keeping ((within limit).AfterStep .authorizing) log := by
  refine honours_exchange.2 ⟨isRelease_offsetRequest s, fun reply _ => ?_⟩
  split
  · exact afford.sent.done
  · exact afford.sent

theorem askParts_within (h : s.mode = .multipart m) (afford : Affords limit (2 * max 1 s.size + 4) log) :
    (askParts s h).Honours keeping ((within limit).AfterStep .authorizing) log := by
  refine honours_exchange.2 ⟨isRelease_offsetRequest s, fun reply _ => ?_⟩
  split
  · exact afford.sent.done
  · exact afford.sent.mono s.budget_transferring_le

/-- **A chunk comes further**: behind a chunk that is not the last, the file has fewer bytes left. -/
theorem sendChunk_within (h : s.mode = .server) (afford : Affords limit (max 1 (s.size - s.startByte)) log) :
    (sendChunk chunkSize s h).Honours keeping ((within limit).AfterStep .transferring) log := by
  have one : Affords limit 1 log := afford.mono (Nat.le_max_left _ _)
  refine honours_fetch.2 fun outcome _ => ?_
  rcases outcome with cause | data
  · exact afford.read.done
  refine honours_deliver.2 ⟨by simp [keeping, Route.isRelease, carrying], fun reply _ => ?_⟩
  rcases reply.outcome with cause | answer
  · exact one.read.delivered
  rw [Dialogue.honours_bind, Dialogue.honours_tell]
  split
  · split
    · exact one.read.delivered.told
    · exact one.read.delivered.told
  · next more =>
    have forward := chunkSize.positive
    have pays : max 1 (s.size - min (s.startByte + chunkSize.bytes) s.size) + 1 ≤
        max 1 (s.size - s.startByte) := by omega
    exact (afford.mono pays).read.delivered.told.mono (Nat.le_of_eq (Session.budget_chunks h))

theorem sendWhole_within {signed : SignedRequest} (h : s.mode = .single signed) (afford : Affords limit 2 log) :
    (sendWhole s signed h).Honours keeping ((within limit).AfterStep .transferring) log := by
  refine honours_fetch.2 fun outcome _ => ?_
  rcases outcome with cause | data
  · exact afford.read.done
  rcases sends : signed.toRequest? with - | request
  · exact afford.read.done
  refine honours_deliver.2 ⟨SignedRequest.isRelease_carrying sends data, fun reply _ => ?_⟩
  rcases reply.outcome with cause | answer
  · exact afford.read.delivered.done
  · exact afford.read.delivered.told.mono (Nat.le_of_eq (Session.budget_completion h))

theorem completeWhole_within (afford : Affords limit 1 log) :
    (completeWhole s : Dialogue UploadEvent (StepResult bound)).Honours keeping
      ((within limit).AfterStep .completing) log := by
  refine honours_exchange.2 ⟨isRelease_completionRequest s, fun reply _ => ?_⟩
  split
  · exact afford.sent
  · exact afford.sent

theorem openStorage_within (h : s.mode = .multipart m) (closed : m.storageId = none)
    (afford : Affords limit (2 * max 1 s.size + 3) log) :
    (openStorage s m h closed).Honours keeping ((within limit).AfterStep .transferring) log := by
  rw [openStorage]
  split
  · exact afford.done
  · next request sends =>
    refine honours_exchange.2 ⟨SignedRequest.isRelease sends, fun reply _ => ?_⟩
    rcases reply.outcome with cause | answer
    · exact afford.sent.done
    simp only []
    split
    · exact afford.sent.done
    · exact afford.sent

/-- **A part comes further**, and costs two requests: one that has it authorized, and one that carries it. -/
theorem sendPart_within {storageId : String} (h : s.mode = .multipart m) (opened : m.storageId = some storageId)
    (afford : Affords limit (2 * max 1 (s.size - s.startByte) + 2) log) :
    (sendPart s m storageId h opened).Honours keeping ((within limit).AfterStep .transferring) log := by
  have four : Affords limit 4 log := afford.mono (by omega)
  refine honours_exchange.2 ⟨by simp [keeping, Route.isRelease, partRequest], fun reply _ => ?_⟩
  split
  · exact four.sent.done
  split
  · exact four.sent.done
  · next length granted =>
    refine honours_fetch.2 fun outcome _ => ?_
    rcases outcome with cause | data
    · exact four.sent.read.done
    simp only []
    split
    · exact four.sent.read.done
    · next request sends =>
      refine honours_deliver.2 ⟨SignedRequest.isRelease_carrying sends data, fun reply _ => ?_⟩
      rcases reply.outcome with cause | answer
      · exact four.sent.read.delivered.done
      simp only []
      split
      · exact four.sent.read.delivered.done
      · next tag _ =>
        rw [Dialogue.honours_bind, Dialogue.honours_tell]
        split
        · next more =>
          have wanted := m.partSize.positive
          have forward : 0 < length := grantedLength_pos granted (by omega) (by omega)
          have pays : 2 * max 1 (s.size - (s.startByte + length)) + 4 ≤
              2 * max 1 (s.size - s.startByte) + 2 := by omega
          refine (afford.mono pays).sent.read.delivered.told.mono ?_
          exact Nat.le_of_eq (Session.budget_parts rfl opened)
        · exact four.sent.read.delivered.told

theorem sendManifest_within {file : Record} {signed : SignedRequest} (afford : Affords limit 1 log) :
    (sendManifest s m file signed : Dialogue UploadEvent (StepResult bound)).Honours keeping
      ((within limit).AfterStep .completing) log := by
  rw [sendManifest]
  split
  · exact afford.done
  · next request sends =>
    refine honours_exchange.2 ⟨SignedRequest.isRelease_withBody sends _, fun reply _ => ?_⟩
    rcases reply.outcome with cause | answer
    · exact afford.sent
    · exact afford.sent

theorem completeParts_within (afford : Affords limit 2 log) :
    (completeParts s m : Dialogue UploadEvent (StepResult bound)).Honours keeping
      ((within limit).AfterStep .completing) log := by
  rw [completeParts]
  split
  · exact sendManifest_within (afford.mono (by omega))
  refine honours_exchange.2 ⟨isRelease_completionRequest s, fun reply _ => ?_⟩
  split
  · exact afford.sent.done
  split
  · exact afford.sent.done
  · exact sendManifest_within afford.sent

end Steps

/-- **A step stays within its budget**, whatever is answered to it. -/
theorem within_kept (limit : Nat) (chunkSize : ChunkSize) : (within limit).KeptBy keeping chunkSize := by
  rintro phase s log (afford : Affords _ _ _)
  cases phase with
  | authorizing =>
    rw [step]
    split
    · next h =>
      simp only [Session.budget, h] at afford
      exact askOffset_within h afford
    · next r h =>
      simp only [Session.budget, h] at afford
      exact askSignature_within ⟨r, h⟩ afford
    · next m h =>
      simp only [Session.budget, h] at afford
      exact askParts_within h afford
  | transferring =>
    rw [step]
    split
    · next h =>
      rw [Session.budget_chunks h] at afford
      exact sendChunk_within h afford
    · next r h =>
      simp only [Session.budget, h] at afford
      exact sendWhole_within h afford
    · next m h =>
      rw [sendNextPart]
      split
      · next closed =>
        simp only [Session.budget, h, closed, Option.isNone_none, if_true] at afford
        exact openStorage_within h closed afford
      · next storageId opened =>
        rw [Session.budget_parts h opened] at afford
        exact sendPart_within h opened afford
  | completing =>
    rw [step]
    split
    · exact afford.done
    · next r h =>
      rw [Session.budget_completion h] at afford
      exact completeWhole_within afford
    · next m h =>
      simp only [Session.budget, h] at afford
      exact completeParts_within afford

/-! ### Calls -/

theorem affords_of_ended {limit : Nat} {u : Uploader} {after : Uploader.After Record} {log : Log UploadEvent}
    (ended : (within limit).Ended u after log) : Affords limit 0 log := by
  cases ended with
  | finished arrived => exact Affords.told arrived
  | suspended stopped => exact Affords.told stopped

namespace Uploader

variable {u : Uploader} {target : UploadTarget} {file : UploadFile}

/-- An initiation, and behind it what the session may cost that it opens. -/
theorem execute_within :
    (u.execute target file).Honours keeping (fun _ log => Affords (2 * max 1 file.size + 4) 0 log) [] := by
  let begun : Uploader := { u with sessions := u.sessions + 1 }
  let limit := 2 * max 1 file.size + 4
  have afford : Affords limit (2 * max 1 file.size + 3 + 1) [] := Nat.le_of_eq (Nat.zero_add _)
  rw [Uploader.execute, Dialogue.honours_bind, honours_initiate]
  refine ⟨by cases target <;> simp [keeping, Route.isRelease, initiationRequest], fun reply _ => ?_⟩
  rcases opening : initiated u.chunkSize ⟨u.sessions + 1⟩ target file reply with record | ⟨phase, s⟩ | cause
  · exact (afford.sent.told).done
  · obtain ⟨-, -, sameFile⟩ := initiated_opened opening
    obtain rfl : phase = .transferring := (initiated_fresh opening).phase
    have size_eq : s.size = file.size := congrArg UploadFile.size sameFile
    have ready : Affords limit (s.budget .transferring) [.sent (initiationRequest target file) reply] :=
      afford.sent.mono (size_eq ▸ s.budget_transferring_le)
    exact (Chronicle.proceed_honours (u := begun) (within_kept limit u.chunkSize) ready).mono
      fun _ _ => affords_of_ended
  · exact (afford.sent.told).done

theorem resume_within {failedIn : Phase} {s : Session} (state : u.state = .suspended failedIn s) :
    u.resume.Honours keeping (fun _ log => Affords (2 * max 1 s.size + 4) 0 log) [] := by
  let limit := 2 * max 1 s.size + 4
  have afford : Affords limit (2 * max 1 s.size + 4) [] := Nat.le_of_eq (Nat.zero_add _)
  have ready : Affords limit (s.budget (s.resumeAt failedIn)) [] :=
    afford.mono (s.budget_le _)
  rw [resume, state]
  exact (Chronicle.proceed_honours (within_kept limit u.chunkSize) ready).mono fun _ _ => affords_of_ended

/-! ### The loop of a call -/

/-- Take step after step as long as there is one to take, but only so many; nothing comes of it when these
were too few. -/
def driveFor (chunkSize : ChunkSize) :
    (steps : Nat) → (phase : Phase) → (s : Session) → Dialogue UploadEvent (Option Outcome)
  | 0, _, _ => return none
  | steps + 1, phase, s => do
    match ← step chunkSize s phase with
    | .next phase s _ => driveFor chunkSize steps phase s
    | .finished s file => return some (.finished s.id file)
    | .failed cause s => return some (.suspended cause phase s)

theorem driveFor_eq_driveWithin {chunkSize : ChunkSize} {steps bound : Nat} {phase : Phase} {s : Session}
    (enough : s.stepsLeft phase < steps) (fits : s.stepsLeft phase < bound) :
    driveFor chunkSize steps phase s = do return some (← driveWithin chunkSize bound phase s fits) := by
  -- both loops take the same steps, and neither has come to its end before the session has
  induction steps generalizing bound phase s with
  | zero => exact absurd enough (Nat.not_lt_zero _)
  | succ steps ih =>
    rcases bound with - | bound
    · exact absurd fits (Nat.not_lt_zero _)
    rw [driveFor, driveWithin, Dialogue.bind_bind]
    congr 1
    funext result
    rcases result with ⟨phase', s', fewer⟩ | ⟨s', file⟩ | ⟨cause, s'⟩
    · exact ih (by omega) (by omega)
    · rfl
    · rfl

end Uploader

theorem Session.stepsLeft_le (s : Session) (phase : Phase) : s.stepsLeft phase ≤ s.size + 4 := by
  unfold stepsLeft
  split
  case h_7 => split <;> omega
  all_goals omega

namespace Uploader

/-- The size of the file that a call is about. -/
def Call.size (u : Uploader) : Call → Nat
  | .execute _ file => file.size
  | .resume => (u.state.session?.map Session.size).getD 0
  | .abort => 0

/-- Only dropping an upload sends a release, so a call as such honours no more than any pact. -/
theorem call_within (call : Call) : (call.on u).Honours .any
    (fun _ log => Affords (2 * max 1 (call.size u) + 4) 0 log) [] := by
  cases call with
  | execute target file =>
    rw [Call.on, Dialogue.honours_bind]
    exact execute_within.relax (fun _ _ _ => trivial) (fun _ _ _ => trivial)
  | resume =>
    rw [Call.on, Dialogue.honours_bind]
    rcases state : u.state with - | - | ⟨failedIn, s⟩
    case suspended =>
      have size_eq : Call.resume.size u = s.size := by simp [Call.size, state, State.session?]
      rw [size_eq]
      exact (resume_within state).relax (fun _ _ _ => trivial) (fun _ _ _ => trivial)
    all_goals
      rw [resume, state]
      exact Nat.zero_le _
  | abort =>
    rw [Call.on, Dialogue.honours_bind, abort]
    split
    · exact Nat.zero_le _
    · rw [Dialogue.honours_bind, Dialogue.honours_ask]
      refine ⟨trivial, fun reply _ => ?_⟩
      have one : Affords (2 * max 1 0 + 4) 1 [] := Nat.le_add_left 1 5
      split
      · exact one.sent
      · exact one.sent

/-- **A call comes to an end within its budget**, whatever the uploader has been through and whatever is
answered: the loop that knows no measure is never cut off, and what is sent is bounded by the size of the
file. -/
theorem stops_within_budget {σ : Type} (env : Environment σ) (t : σ) (u : Uploader) (call : Call) :
    (∀ phase (s : Session),
        driveFor u.chunkSize (s.size + 5) phase s = do return some (← drive u.chunkSize phase s)) ∧
      (requests ((call.on u).run env t).log).length ≤ 2 * max 1 (call.size u) + 4 := by
  refine ⟨fun phase s => driveFor_eq_driveWithin (Nat.lt_succ_of_le (s.stepsLeft_le phase)) _, ?_⟩
  obtain ⟨-, afford⟩ := (call_within call).run env t (Dialogue.follows_any _ _)
  rw [length_requests]
  exact afford

end Uploader

end Depot
