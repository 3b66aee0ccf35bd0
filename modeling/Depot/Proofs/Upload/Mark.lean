import Depot.Proofs.Upload.Granted
import Depot.Proofs.Upload.Invariant
import Depot.Proofs.Upload.ThroughServer

/-!
# Where a session stands, by what was told

The log of an upload has two kinds of marks for how far it has come: the offset at which it was begun or
authorized anew, and every chunk that was told to be acknowledged.  `Session.mark` is the last of them.

A session stands at its mark, with one exception: when all bytes have gone through the server, where the last
chunk starts.  With the last chunk the upload is either complete or has failed, because the answer is not the
record of the file (`ServerStep.unrecorded`), and then the session is kept as it stood before that chunk.
-/

namespace Depot

open Dialogue (Environment Happening Log)
open Route (asksLanded isInitiation)

/-! ### Marks -/

/-- How far an upload has come. -/
structure Mark where
  upTo : Nat
  /-- How many bytes were acknowledged with it; none if it was installed. -/
  bytes : Nat

/-- The offset that the answer to a question how to go on installs. -/
def Session.installed? (s : Session) (reply : Reply) : Option Nat :=
  if s.mode = .server then (s.landed reply).toOption else reply.signature.toOption.map fun _ => 0

/-- The mark after one more happening. -/
def Mark.after (s : Session) (mark : Mark) : Happening UploadEvent → Mark
  | .sent request reply =>
    if request = initiationRequest s.target s.file then ⟨0, 0⟩
    else if asksLanded request then
      match s.installed? reply with
      | some offset => ⟨offset, 0⟩
      | none => mark
    else mark
  | .told (.chunkSent id bytes acknowledged) => if id = s.id then ⟨acknowledged, bytes⟩ else mark
  | _ => mark

/-- The last mark of a session. -/
def Session.mark (s : Session) (log : Log UploadEvent) : Mark := log.foldl (Mark.after s) ⟨0, 0⟩

/-- Where a session of `size` bytes stands whose bytes go through the server. -/
def Mark.serverStart (mark : Mark) (size : Nat) : Nat :=
  if mark.upTo = size then mark.upTo - mark.bytes else mark.upTo

/-- Where a session with this mark stands. -/
def Mark.start (mark : Mark) (s : Session) : Nat :=
  if s.mode = .server then mark.serverStart s.size else mark.upTo

/-! ### What leaves a mark -/

section After

variable {s : Session} {mark : Mark} {request : Request} {reply : Reply}

/-- A request that neither opens an upload nor asks how many bytes have landed leaves no mark. -/
structure Request.Unmarked (request : Request) : Prop where
  opens : (request.isApiRequest && isInitiation request) = false
  asks : asksLanded request = false

theorem Request.Unmarked.after (h : request.Unmarked) : Mark.after s mark (.sent request reply) = mark := by
  have other : request ≠ initiationRequest s.target s.file := by
    rintro rfl
    have opens := h.opens
    rcases target : s.target <;>
      simp [initiationRequest, target, isInitiation, Request.isApiRequest] at opens
  simp only [Mark.after, if_neg other, h.asks, Bool.false_eq_true, if_false]

theorem Request.Unmarked.foldl {more : Log UploadEvent} (h : request.Unmarked) :
    (Happening.sent request reply :: more).foldl (Mark.after s) mark = more.foldl (Mark.after s) mark := by
  rw [List.foldl_cons, h.after]

theorem Request.Unmarked.of_outside (outside : request.isApiRequest = false) : request.Unmarked :=
  ⟨by simp [outside], (Route.of_outside outside).2.2⟩

theorem unmarked_completionRequest : (completionRequest s).Unmarked :=
  ⟨by simp [completionRequest, isInitiation], asksLanded_completionRequest s⟩

theorem unmarked_partRequest {m : Multipart} {name : String} {wanted : Nat} :
    (partRequest s m name wanted).Unmarked :=
  ⟨by simp [partRequest, isInitiation], by simp [partRequest, asksLanded]⟩

theorem unmarked_chunkRequest {start : Nat} {data : Bytes} :
    (carrying (s.chunkRequest start) data).Unmarked :=
  ⟨by simp [carrying, Session.chunkRequest, isInitiation, Request.withBody, Request.withProgress],
    by simp [carrying, Session.chunkRequest, asksLanded, Request.withBody, Request.withProgress]⟩

/-- What goes to storage leaves no mark, whatever it carries. -/
theorem unmarked_of_signed {signed : SignedRequest} (sends : signed.toRequest? = some request) :
    request.Unmarked ∧ (∀ body, (request.withBody body).Unmarked) ∧ ∀ data, (carrying request data).Unmarked := by
  have outside := (SignedRequest.sent_outside sends).1
  exact ⟨.of_outside outside, fun _ => .of_outside outside, fun _ => .of_outside outside⟩

/-- Bytes on their way leave no mark before they are acknowledged. -/
theorem foldl_carried {start stop length : Nat} {data : Bytes} (unmarked : (carrying request data).Unmarked) :
    (s.carried start stop length data request reply).foldl (Mark.after s) mark = mark := by
  have told (mark : Mark) :
      ((reports s start length reply.progress).map Happening.told).foldl (Mark.after s) mark = mark := by
    induction reply.progress with
    | nil => rfl
    | cons report rest ih => exact ih
  show ((reports s start length reply.progress).map Happening.told).foldl (Mark.after s)
    (Mark.after s mark (.sent (carrying request data) reply)) = mark
  rw [unmarked.after, told]

/-- They leave one when they are. -/
theorem foldl_acknowledged {start stop length bytes acknowledged : Nat} {data : Bytes}
    (unmarked : (carrying request data).Unmarked) :
    (s.carried start stop length data request reply ++
      [Happening.told (UploadEvent.chunkSent s.id bytes acknowledged)]).foldl (Mark.after s) mark =
        ⟨acknowledged, bytes⟩ := by
  rw [List.foldl_append, foldl_carried unmarked]
  exact if_pos rfl

theorem after_offsetRequest : Mark.after s mark (.sent s.offsetRequest reply) =
    match s.installed? reply with
    | some offset => ⟨offset, 0⟩
    | none => mark := by
  have asks : asksLanded s.offsetRequest = true := by simp [asksLanded, Session.offsetRequest]
  have other : s.offsetRequest ≠ initiationRequest s.target s.file := by
    rcases target : s.target <;> simp [initiationRequest, Session.offsetRequest, Request.get, Request.new,
      Request.withQuery, Request.post, Request.put, Request.withQueryPairs]
  simp only [Mark.after, if_neg other, asks, if_true]

theorem after_initiationRequest :
    Mark.after s mark (.sent (initiationRequest s.target s.file) reply) = ⟨0, 0⟩ :=
  if_pos rfl

/-- What leaves a mark does not depend on how far the session has come. -/
theorem Mark.after_congr {s' : Session} (same : s'.Continues s) (server : s'.mode = .server ↔ s.mode = .server) :
    Mark.after s' = Mark.after s := by
  have size : s'.size = s.size := congrArg UploadFile.size same.file
  have installed (reply : Reply) : s'.installed? reply = s.installed? reply := by
    simp only [Session.installed?, Session.landed, size, server]
  funext mark happening
  rcases happening with ⟨request, reply⟩ | _ | e
  · simp only [Mark.after, same.target, same.file, installed]
  · rfl
  · cases e <;> simp only [Mark.after, same.id]

end After

/-! ### One step -/

section Steps

variable {chunkSize : ChunkSize} {s : Session} {m : Multipart} {phase : Phase} {log more : Log UploadEvent}
  {upshot : Upshot} {mark : Mark}

/-- Behind the last chunk, the mark is where that chunk starts. -/
theorem serverStart_chunkSent (within : s.startByte ≤ s.size) (last : s.size ≤ s.chunkStop chunkSize) :
    Mark.serverStart ⟨s.chunkStop chunkSize, s.chunkStop chunkSize - s.startByte⟩ s.size = s.startByte := by
  obtain ⟨le_stop, stop_le⟩ := chunkStop_bounds chunkSize within
  -- the last chunk may be empty, and then it starts at the end
  have all : s.chunkStop chunkSize = s.size := Nat.le_antisymm stop_le last
  rw [Mark.serverStart, if_pos all]
  show s.chunkStop chunkSize - (s.chunkStop chunkSize - s.startByte) = s.startByte
  omega

theorem ServerStep.marked (mode : s.mode = .server) (within : s.startByte ≤ s.size)
    (marked : s.startByte = mark.serverStart s.size) (h : ServerStep chunkSize s phase more upshot) :
    upshot.session.startByte = (more.foldl (Mark.after s) mark).serverStart s.size := by
  cases h with
  | @unlocated reply cause fails =>
    have nothing : s.installed? reply = none := by
      simp only [Session.installed?, if_pos mode, fails]
      rfl
    rw [List.foldl_cons, after_offsetRequest, nothing]
    exact marked
  | @located reply offset landed =>
    have installs : s.installed? reply = some offset := by
      simp only [Session.installed?, if_pos mode, landed]
      rfl
    rw [List.foldl_cons, after_offsetRequest, installs]
    exact (ite_self offset).symm
  | unread => exact marked
  | unsent =>
    rw [foldl_carried unmarked_chunkRequest]
    exact marked
  | sent answered more =>
    rw [foldl_acknowledged unmarked_chunkRequest, Mark.serverStart, if_neg (Nat.ne_of_lt more)]
    rfl
  | unrecorded answered last =>
    rw [foldl_acknowledged unmarked_chunkRequest]
    exact (serverStart_chunkSent within last).symm
  | recorded answered last =>
    rw [foldl_acknowledged unmarked_chunkRequest]
    exact (serverStart_chunkSent within last).symm
  | fileless => exact marked

theorem WholeStep.marked {signed : SignedRequest} (mode : s.mode = .single signed)
    (sound : s.Sound (.underway phase) log) (marked : s.startByte = mark.upTo)
    (h : WholeStep s signed phase more upshot) :
    upshot.session.startByte = (more.foldl (Mark.after s) mark).upTo := by
  have direct : s.mode ≠ .server := by simp [mode]
  have start := sound.single signed mode
  cases h with
  | @unsigned reply cause fails =>
    have nothing : s.installed? reply = none := by
      simp only [Session.installed?, if_neg direct, fails]
      rfl
    rw [List.foldl_cons, after_offsetRequest, nothing]
    exact marked
  | @signed reply fresh given =>
    have installs : s.installed? reply = some 0 := by
      simp only [Session.installed?, if_neg direct, given]
      rfl
    rw [List.foldl_cons, after_offsetRequest, installs]
    rfl
  | unread => exact start.symm.trans marked
  | unsupported => exact start.symm.trans marked
  | unsent sends =>
    rw [foldl_carried ((unmarked_of_signed sends).2.2 _)]
    exact start.symm.trans marked
  | sent sends =>
    rw [foldl_acknowledged ((unmarked_of_signed sends).2.2 _)]
    rfl
  | uncompleted =>
    rw [unmarked_completionRequest.foldl]
    exact marked
  | completed =>
    rw [unmarked_completionRequest.foldl]
    exact marked

theorem Assembling.unmarked {file : Record} {signed : SignedRequest} {s' : Session}
    (h : Assembling s' m file signed more upshot) : more.foldl (Mark.after s) mark = mark := by
  cases h with
  | unsupported => rfl
  | untaken sends => exact ((unmarked_of_signed sends).2.1 _).after
  | taken sends => exact ((unmarked_of_signed sends).2.1 _).after

theorem PartStep.marked (mode : s.mode = .multipart m) (sound : s.Sound (.underway phase) log)
    (marked : s.startByte = mark.upTo) (h : PartStep s m phase more upshot) :
    upshot.session.startByte = (more.foldl (Mark.after s) mark).upTo := by
  have parts := sound.multipart m mode
  cases h with
  | unheard | heard => exact absurd mode (sound.authorizing rfl m)
  | unopenable => exact marked
  | unopened closed sends =>
    rw [(unmarked_of_signed sends).1.foldl]
    exact marked
  | opened closed sends =>
    rw [(unmarked_of_signed sends).1.foldl]
    exact (parts.unopened closed).2.2.symm.trans marked
  | unauthorized =>
    rw [unmarked_partRequest.foldl]
    exact marked
  | unread =>
    rw [unmarked_partRequest.foldl]
    exact marked
  | unsupported =>
    rw [unmarked_partRequest.foldl]
    exact marked
  | untagged opened granted sends =>
    rw [unmarked_partRequest.foldl, foldl_carried ((unmarked_of_signed sends).2.2 _)]
    exact marked
  | tagged opened granted sends =>
    rw [List.cons_append, unmarked_partRequest.foldl,
      foldl_acknowledged ((unmarked_of_signed sends).2.2 _)]
    rfl
  | uncompleted =>
    rw [unmarked_completionRequest.foldl]
    exact marked
  | completed _ _ assembling =>
    rw [unmarked_completionRequest.foldl, assembling.unmarked, assembling.session_eq]
    exact marked
  | assembled _ assembling =>
    rw [assembling.unmarked, assembling.session_eq]
    exact marked

/-- **A step leaves a session where its mark says.** -/
theorem Transition.marked (sound : s.Sound (.underway phase) log) (marked : s.startByte = mark.start s)
    (h : Transition chunkSize s phase more upshot) :
    upshot.session.startByte = (more.foldl (Mark.after upshot.session) mark).start upshot.session := by
  have size : upshot.session.size = s.size := congrArg UploadFile.size h.continues.file
  simp only [Mark.start, Mark.after_congr h.continues h.server_iff, h.server_iff, size] at marked ⊢
  unfold Transition at h
  split at h
  · next mode =>
    rw [if_pos mode] at marked ⊢
    exact h.marked mode sound.within marked
  · next mode =>
    have direct : s.mode ≠ .server := by simp [mode]
    rw [if_neg direct] at marked ⊢
    exact h.marked mode sound marked
  · next mode =>
    have direct : s.mode ≠ .server := by simp [mode]
    rw [if_neg direct] at marked ⊢
    exact h.marked mode sound marked

end Steps

/-! ### All sessions -/

section Reached

variable {chunkSize : ChunkSize} {s : Session} {standing : Standing} {log : Log UploadEvent}

/-- **A reached session stands at its mark**, whatever was marked before it was opened. -/
theorem Session.Reached.marked (reached : s.Reached chunkSize standing log) (mark : Mark) :
    s.startByte = (log.foldl (Mark.after s) mark).start s := by
  induction reached with
  | @opened _ _ _ reply _ s opens =>
    -- the request that opens an upload sets the mark, and so forgets the one before
    obtain ⟨-, rfl, rfl⟩ := Uploader.initiated_opened opens
    rw [List.foldl_cons, after_initiationRequest, (initiated_fresh opens).startByte]
    simp [Mark.start, Mark.serverStart]
  | stepped reached leads ih =>
    -- the marks of the log so far are those of the session before the step
    have transition := step_transition leads
    have same := Mark.after_congr transition.continues transition.server_iff
    rw [List.foldl_append, same]
    have marked := transition.marked reached.sound ih
    rwa [same] at marked
  | resumed cause reached ih =>
    rw [List.foldl_append]
    exact ih

end Reached

/-- No other way for a call to end comes back with a failed transfer than to leave the session suspended. -/
theorem suspended_of_transfer {call : Uploader.Call} {before : Uploader} {verdict : Uploader.Verdict}
    {u : Uploader} {log : Log UploadEvent} {cause : StepError}
    (ended : Uploader.EndedAs call before verdict (.error (.transfer cause), u) log) :
    ∃ failedIn s, u.state = .suspended failedIn s := by
  cases ended with
  | @suspended s failedIn _ _ _ _ _ _ waits => exact ⟨failedIn, s, waits⟩
  | dropped _ _ returned => rcases returned with ⟨⟨⟩⟩ | ⟨_, ⟨⟩⟩

/-- **A stopped session stands at its last mark**: where the last chunk that was told to be acknowledged ends, or
at the offset that was installed since.  Only when all bytes have gone through the server, and the answer to the
last chunk is not the record of the file, does it stand where that chunk starts. -/
theorem stopped_at_last_mark {σ : Type} (env : Environment σ) (t : σ) (chunkSize : ChunkSize)
    (earlier : List Uploader.Call) (call : Uploader.Call) (cause : StepError) (u : Uploader) :
    let past := (Uploader.perform earlier (.new chunkSize)).run env t
    let now := (call.on past.value).run env past.peer
    now.value = (.error (.transfer cause), u) →
      ∃ failedIn s, u.state = .suspended failedIn s ∧
        let mark := s.mark (past.log ++ now.log)
        s.startByte = if s.mode = .server ∧ mark.upTo = s.size then mark.upTo - mark.bytes else mark.upTo := by
  intro past now failed
  have ends : (call.on past.value).Honours .any
      (fun after log => ∃ verdict, Uploader.EndedAs call past.value verdict after log) [] := by
    cases call with
    | execute target file => exact Uploader.execute_ends target file
    | resume => exact Uploader.resume_ends
    | abort => exact Uploader.abort_ends
  obtain ⟨-, verdict, ended⟩ := ends.run env past.peer (Dialogue.follows_any _ _)
  rw [failed] at ended
  obtain ⟨failedIn, s, waits⟩ := suspended_of_transfer ended
  have traced := Uploader.perform_traced env t chunkSize earlier
  have left := ((Uploader.call_traced traced call).run env past.peer (Dialogue.follows_any _ _)).2
  rw [failed] at left
  -- the log of the session is the end of the log of all calls, up to the event that closes this one
  obtain ⟨before, since, cause, log, reached⟩ := left.waiting failedIn s waits
  refine ⟨failedIn, s, waits, ?_⟩
  have stands := reached.marked (before.foldl (Mark.after s) ⟨0, 0⟩)
  have mark : s.mark (past.log ++ now.log) = since.foldl (Mark.after s) (before.foldl (Mark.after s) ⟨0, 0⟩) := by
    rw [log, Session.mark, List.foldl_append, List.foldl_append]
    rfl
  simp only [mark, ite_and]
  exact stands

open ChunkServer (plain rough) in
/-- Five bytes in a rough connection: two chunks have arrived, and the answer to the last one is lost. -/
theorem stopped_at_last_mark_rough :
    let env := rough.environment plain.peer fun _ => none
    let past := (Uploader.perform [.execute (.folder "p") (.ofBytes "a" [1, 2, 3, 4, 5]), .resume, .resume]
      (.new (.atLeastOne 2))).run env (.start .empty)
    let now := (Uploader.Call.resume.on past.value).run env past.peer
    ∃ cause u s failedIn, now.value = (.error (.transfer cause), u) ∧ u.state = .suspended failedIn s ∧
      s.startByte = 4 ∧ (s.mark (past.log ++ now.log)).upTo = 4 := by
  intro env past now
  have recoverable : ((now.value.1.mapError UploadError.isRecoverable).map fun _ => ()) = .error true := by
    decide +kernel
  have held : now.value.2.state.session?.map (fun s => (s.size, (s.mark (past.log ++ now.log)).upTo)) =
      some (5, 4) := by
    decide +kernel
  rcases value : now.value with ⟨(_ | cause | _ | _) | _, u⟩
  case error.transfer =>
    obtain ⟨failedIn, s, waits, stands⟩ := stopped_at_last_mark env (.start .empty) (.atLeastOne 2)
      [.execute (.folder "p") (.ofBytes "a" [1, 2, 3, 4, 5]), .resume, .resume] .resume cause u value
    simp only [value, waits] at held
    obtain ⟨size, upTo⟩ := Prod.mk.inj (Option.some.inj held)
    refine ⟨cause, u, s, failedIn, rfl, waits, stands.trans ?_, upTo⟩
    rw [if_neg]
    · exact upTo
    · rintro ⟨-, all⟩
      exact absurd (upTo.symm.trans (all.trans size)) (by decide)
  all_goals
    rw [value] at recoverable
    cases recoverable

/-- Three bytes in one chunk, whose answer is no record: all of them were told to be acknowledged, and still the
session stands at the first one. -/
theorem stopped_before_last_acknowledged :
    let env : Environment Unit :=
      { send := fun request t =>
          (.ok (if isInitiation request then ChunkServer.plain.opening
            else (Response.new 200).withBody [111, 111, 112, 115]), t)
        read := fun source start stop t => (source.readRange (fun _ => none) start stop, t) }
    let run := (Uploader.perform [.execute (.folder "f") (.ofBytes "a" [1, 2, 3])] (.new (.atLeastOne 4))).run env ()
    ∃ failedIn s, run.value.state = .suspended failedIn s ∧ (s.mark run.log).upTo = 3 ∧ s.startByte = 0 := by
  intro env run
  have held : run.value.state.session?.map (fun s => ((s.mark run.log).upTo, s.startByte)) = some (3, 0) := by
    decide +kernel
  obtain ⟨failedIn, s, state, same⟩ := Uploader.State.exists_suspended held
  exact ⟨failedIn, s, state, Prod.mk.inj same⟩

end Depot
