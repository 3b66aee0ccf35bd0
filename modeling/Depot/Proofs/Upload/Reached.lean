import Depot.Proofs.Upload.Transition

/-!
# The sessions that can be reached

`Session.Reached` has every session that an upload can come to, whatever is answered: one that was opened, one
that has taken a step, and one that is resumed after a failure.  With it goes the log of all that has happened
since it was opened.  What holds of every reached session is proved by induction on how it was reached, one
`Transition` at a time.

Uploaders hold and drive no other sessions (`Uploader.Traced`), in whatever order they are called.
-/

namespace Depot

open Dialogue (Environment Log)

/-! ### Between two steps -/

/-- How a session stands between two steps. -/
inductive Standing where
  /-- The step of this phase comes next. -/
  | underway (phase : Phase)
  /-- The step of this phase has failed. -/
  | stopped (failedIn : Phase)
  /-- The file is there. -/
  | finished (file : Record)

/-- The phase of a session that is not finished. -/
@[simp] def Standing.phase? : Standing → Option Phase
  | underway phase => some phase
  | stopped failedIn => some failedIn
  | finished _ => none

/-- How a session stands after a step in this phase. -/
@[simp] def Upshot.standing (phase : Phase) : Upshot → Standing
  | next phase _ => .underway phase
  | finished _ file => .finished file
  | failed _ _ => .stopped phase

/-- **A session that can be reached**, with what has happened since it was opened. -/
inductive Session.Reached (chunkSize : ChunkSize) : Standing → Session → Log UploadEvent → Prop
  | opened {id : SessionId} {target : UploadTarget} {file : UploadFile} {reply : Reply} {phase : Phase}
      {s : Session} (opens : initiated chunkSize id target file reply = .opened phase s) :
      Reached chunkSize (.underway phase) s [.sent (initiationRequest target file) reply]
  | stepped {phase : Phase} {s : Session} {log more : Log UploadEvent} {result : StepResult (s.stepsLeft phase)}
      (reached : Reached chunkSize (.underway phase) s log)
      (leads : (step chunkSize s phase).Leads more result) :
      Reached chunkSize (result.upshot.standing phase) result.upshot.session (log ++ more)
  /-- Why the step failed has been told before the session is resumed. -/
  | resumed {failedIn : Phase} {s : Session} {log : Log UploadEvent} (cause : StepError)
      (reached : Reached chunkSize (.stopped failedIn) s log) :
      Reached chunkSize (.underway (s.resumeAt failedIn)) s
        (log ++ [.told (.error s.id cause.message cause.status?)])

/-- How a session begins. -/
structure Session.Fresh (s : Session) (phase : Phase) : Prop where
  phase : phase = .transferring
  startByte : s.startByte = 0
  parts : ∀ m, s.mode = .multipart m → m.storageId = none ∧ m.tags = [] ∧ m.finalize = none

theorem initiated_fresh {chunkSize : ChunkSize} {id : SessionId} {target : UploadTarget} {file : UploadFile}
    {reply : Reply} {phase : Phase} {s : Session}
    (opens : initiated chunkSize id target file reply = .opened phase s) : s.Fresh phase := by
  unfold initiated readInitiation at opens
  split at opens
  · cases opens
  split at opens
  · cases opens
  split at opens
  · cases opens
  next opening _ =>
  split at opens
  · cases opens
  next mode modeEq =>
  cases opens
  refine ⟨rfl, rfl, ?_⟩
  rintro m rfl
  -- of the ways in which bytes can travel, one is in parts
  unfold Opening.mode at modeEq
  split at modeEq
  · split at modeEq
    · cases modeEq
    · split at modeEq
      · cases modeEq
        exact ⟨rfl, rfl, rfl⟩
      · cases modeEq
  · cases modeEq

/-! ### What no step changes -/

section Steps

variable {chunkSize : ChunkSize} {s : Session} {phase : Phase} {log : Log UploadEvent} {upshot : Upshot}

theorem Assembling.session_eq {m : Multipart} {file : Record} {signed : SignedRequest}
    (h : Assembling s m file signed log upshot) : upshot.session = s := by
  cases h <;> rfl

/-- A step stays with its session. -/
theorem Transition.continues (h : Transition chunkSize s phase log upshot) : upshot.session.Continues s := by
  unfold Transition at h
  split at h
  · cases h <;> exact ⟨rfl, rfl, rfl, rfl, rfl⟩
  · cases h <;> exact ⟨rfl, rfl, rfl, rfl, rfl⟩
  · cases h with
    | completed _ _ assembling => rw [assembling.session_eq]; exact ⟨rfl, rfl, rfl, rfl, rfl⟩
    | assembled _ assembling => rw [assembling.session_eq]; exact ⟨rfl, rfl, rfl, rfl, rfl⟩
    | _ => exact ⟨rfl, rfl, rfl, rfl, rfl⟩

/-- Bytes that go through the server go on to do so, and no others begin to. -/
theorem Transition.server_iff (h : Transition chunkSize s phase log upshot) :
    upshot.session.mode = .server ↔ s.mode = .server := by
  unfold Transition at h
  split at h
  · next mode => cases h <;> simp [Upshot.session, mode]
  · next mode => cases h <;> simp [Upshot.session, mode]
  · next mode =>
    cases h with
    | completed _ _ assembling => rw [assembling.session_eq]; simp [mode]
    | assembled _ assembling => rw [assembling.session_eq]
    | _ => simp [Upshot.session, mode]

end Steps

/-! ### Calls -/

/-- The log of a session, and what was before it. -/
def Session.ReachedBehind (chunkSize : ChunkSize) (before : Log UploadEvent) (standing : Standing) (s : Session)
    (log : Log UploadEvent) : Prop :=
  ∃ since, log = before ++ since ∧ s.Reached chunkSize standing since

/-- Whatever was read was read for a reached session. -/
def ReadForReached (chunkSize : ChunkSize) (log : Log UploadEvent) : Prop :=
  ∀ source start stop outcome, .read source start stop outcome ∈ log →
    ∃ (standing : Standing) (s : Session) (since : Log UploadEvent),
      s.Reached chunkSize standing since ∧ .read source start stop outcome ∈ since

/-- What is read in the steps of a reached session is read for it. -/
theorem ReadForReached.behind {chunkSize : ChunkSize} {before since : Log UploadEvent} {standing : Standing}
    {s : Session} (earlier : ReadForReached chunkSize before) (reached : s.Reached chunkSize standing since)
    (closing : UploadEvent) : ReadForReached chunkSize (before ++ since ++ [.told closing]) := by
  intro source start stop outcome member
  simp only [List.mem_append, List.mem_singleton, reduceCtorEq, or_false] at member
  rcases member with before | now
  · exact earlier source start stop outcome before
  · exact ⟨standing, s, since, reached, now⟩

/-- Only reached sessions are driven. -/
def reaching (chunkSize : ChunkSize) (before : Log UploadEvent) : Chronicle where
  ready phase s log := s.ReachedBehind chunkSize before (.underway phase) log
  stopped phase s log := s.ReachedBehind chunkSize before (.stopped phase) log
  arrived session file log := ∃ s : Session, s.id = session ∧ s.ReachedBehind chunkSize before (.finished file) log

theorem reaching_kept (chunkSize : ChunkSize) (before : Log UploadEvent) :
    (reaching chunkSize before).KeptBy .any chunkSize := by
  rintro phase s log ⟨since, rfl, reached⟩
  refine Dialogue.honours_any_iff.2 fun more result leads => ?_
  have stepped := Session.Reached.stepped reached leads
  rw [List.append_assoc]
  -- whichever way the step ends, the session behind it is reached by it
  rcases result with ⟨phase, s, fewer⟩ | ⟨s, file⟩ | ⟨cause, s⟩
  · exact ⟨since ++ more, rfl, stepped⟩
  · exact ⟨s, rfl, since ++ more, rfl, stepped⟩
  · exact ⟨since ++ more, rfl, stepped⟩

namespace Uploader

/-- What can be said of a waiting session can be said of the one that was stopped. -/
theorem State.exists_suspended {α : Type} {state : State} {f : Session → α} {x : α}
    (waits : state.session?.map f = some x) : ∃ failedIn s, state = .suspended failedIn s ∧ f s = x := by
  cases state with
  | suspended failedIn s => exact ⟨failedIn, s, rfl, Option.some.inj waits⟩
  | idle => cases waits
  | complete => cases waits

/-- What an uploader holds is known by the log of all its calls. -/
structure Traced (chunkSize : ChunkSize) (u : Uploader) (log : Log UploadEvent) : Prop where
  sized : u.chunkSize = chunkSize
  /-- A session that waits was reached, and nothing has happened since it was stopped. -/
  waiting : ∀ failedIn s, u.state = .suspended failedIn s →
    ∃ (before since : Log UploadEvent) (cause : StepError),
      log = before ++ since ++ [.told (.error s.id cause.message cause.status?)] ∧
        s.Reached chunkSize (.stopped failedIn) since
  read : ReadForReached chunkSize log

variable {chunkSize : ChunkSize} {u : Uploader} {past log : Log UploadEvent}

/-- Nothing is read in a call that drives no session. -/
theorem Traced.unread (traced : u.Traced chunkSize past) (state : State) (sessions : Nat)
    (more : Log UploadEvent) (idle : ∀ failedIn s, state ≠ .suspended failedIn s)
    (noReads : ∀ source start stop outcome, .read source start stop outcome ∉ more) :
    Traced chunkSize ⟨u.chunkSize, state, sessions⟩ (past ++ more) where
  sized := traced.sized
  waiting := fun failedIn s waits => absurd waits (idle failedIn s)
  read := by
    intro source start stop outcome member
    rcases List.mem_append.1 member with earlier | now
    · exact traced.read source start stop outcome earlier
    · exact absurd now (noReads source start stop outcome)

/-- A call that drives a session reads for that session, and leaves it behind when it is stopped. -/
theorem traced_of_ended {before : Log UploadEvent} {after : After Record}
    (earlier : ReadForReached chunkSize before) (sized : u.chunkSize = chunkSize)
    (ended : (reaching chunkSize before).Ended u after log) : after.2.Traced chunkSize log := by
  cases ended with
  | @finished session file log arrived =>
    obtain ⟨s, -, since, rfl, reached⟩ := arrived
    exact ⟨sized, by rintro failedIn s ⟨⟩, earlier.behind reached _⟩
  | @suspended cause failedIn s log stopped =>
    obtain ⟨since, rfl, reached⟩ := stopped
    refine ⟨sized, ?_, earlier.behind reached _⟩
    rintro _ _ ⟨⟩
    exact ⟨before, since, cause, rfl, reached⟩

theorem execute_traced (traced : u.Traced chunkSize past) (target : UploadTarget) (file : UploadFile) :
    (u.execute target file).Honours .any (fun after log => after.2.Traced chunkSize log) past := by
  let begun : Uploader := { u with sessions := u.sessions + 1 }
  rw [Uploader.execute, Dialogue.honours_bind, honours_initiate]
  refine ⟨trivial, fun reply _ => ?_⟩
  rcases opening : initiated u.chunkSize ⟨u.sessions + 1⟩ target file reply with record | ⟨phase, s⟩ | cause
  · show Traced chunkSize _ (past ++ [_] ++ [_])
    rw [List.append_assoc]
    exact traced.unread _ _ _ (by simp) (by simp)
  · have reached : s.Reached chunkSize (.underway phase) [.sent (initiationRequest target file) reply] :=
      .opened (traced.sized ▸ opening)
    have kept : (reaching chunkSize past).KeptBy .any begun.chunkSize := by
      rw [show begun.chunkSize = chunkSize from traced.sized]
      exact reaching_kept chunkSize past
    refine (Chronicle.proceed_honours (u := begun) kept ⟨_, rfl, reached⟩).mono fun after log ended => ?_
    exact traced_of_ended (u := begun) traced.read traced.sized ended
  · show Traced chunkSize _ (past ++ [_] ++ [_])
    rw [List.append_assoc]
    exact traced.unread _ _ _ (by simp) (by simp)

theorem resume_traced (traced : u.Traced chunkSize past) :
    u.resume.Honours .any (fun after log => after.2.Traced chunkSize log) past := by
  rw [Uploader.resume]
  split
  · next failedIn s state =>
    obtain ⟨before, since, cause, rfl, reached⟩ := traced.waiting failedIn s state
    -- the call goes on with the log of the session that waits
    have resumed : s.ReachedBehind chunkSize before (.underway (s.resumeAt failedIn))
        (before ++ since ++ [.told (.error s.id cause.message cause.status?)]) :=
      ⟨_, List.append_assoc _ _ _, .resumed cause reached⟩
    have kept : (reaching chunkSize before).KeptBy .any u.chunkSize := by
      rw [traced.sized]
      exact reaching_kept chunkSize before
    refine (Chronicle.proceed_honours kept resumed).mono fun after log ended => ?_
    refine traced_of_ended ?_ traced.sized ended
    intro source start stop outcome member
    exact traced.read source start stop outcome
      (List.mem_append_left _ (List.mem_append_left _ member))
  · exact traced

theorem abort_traced (traced : u.Traced chunkSize past) :
    u.abort.Honours .any (fun after log => after.2.Traced chunkSize log) past := by
  rw [Uploader.abort]
  split
  · have idle := traced.unread .idle u.sessions [] (by simp) (by simp)
    rwa [List.append_nil] at idle
  · next s _ =>
    rw [Dialogue.honours_bind, Dialogue.honours_ask]
    refine ⟨trivial, fun reply _ => ?_⟩
    have idle := traced.unread .idle u.sessions
      [.sent (Request.delete s!"file/upload/{s.uploadId}") reply] (by simp) (by simp)
    split <;> exact idle

/-- **A call leaves a reached session or none**, and reads for reached sessions only. -/
theorem call_traced (traced : u.Traced chunkSize past) (call : Call) :
    (call.on u).Honours .any (fun after log => after.2.Traced chunkSize log) past := by
  cases call with
  | execute target file =>
    rw [Call.on, Dialogue.honours_bind]
    exact execute_traced traced target file
  | resume =>
    rw [Call.on, Dialogue.honours_bind]
    exact resume_traced traced
  | abort =>
    rw [Call.on, Dialogue.honours_bind]
    exact abort_traced traced

theorem perform_honours_traced (traced : u.Traced chunkSize past) (calls : List Call) :
    (perform calls u).Honours .any (fun u log => u.Traced chunkSize log) past := by
  induction calls generalizing u past with
  | nil => exact traced
  | cons call rest ih =>
    rw [perform, Dialogue.honours_bind]
    exact (call_traced traced call).mono fun after log traced => ih traced

/-- **Every uploader is traced**, whatever was called on it and whatever was answered. -/
theorem perform_traced {σ : Type} (env : Environment σ) (t : σ) (chunkSize : ChunkSize) (calls : List Call) :
    let run := (perform calls (new chunkSize)).run env t
    run.value.Traced chunkSize run.log := by
  have nothing : (new chunkSize).Traced chunkSize [] :=
    ⟨rfl, by rintro failedIn s ⟨⟩, by rintro source start stop outcome ⟨⟩⟩
  exact ((perform_honours_traced nothing calls).run env t (Dialogue.follows_any _ _)).2

end Uploader

end Depot
