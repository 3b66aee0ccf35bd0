import Depot.Proofs.Dialogue.Run
import Depot.Upload.Uploader

/-!
# The course of an upload

Every property of whole uploads is proved in the same way.  A `Course` says when a session is ready for the
next step of a phase, with the peer in its present state, and what it means that the file is there.  It has
to be kept by one step (`Course.KeptBy`); what follows from that is shown here once and for all:

* `drive_meets`: by induction on the steps left, a whole drive keeps the course;
* `resume_meets`, `execute_meets`: so does a call, and the session that it leaves behind is ready where it
  will be resumed;
* `insist_meets`: so do a call of `execute` and any number of calls of `resume` after it.

Along the way the contract with the peer is honoured, which is what `Dialogue.Meets` adds to the end of the
run.
-/

namespace Depot

open Dialogue (Environment Contract)

/-- An upload and so many resumptions after it, whatever becomes of each; the last call counts. -/
def Uploader.insist (u : Uploader) (target : UploadTarget) (file : UploadFile) :
    (resumes : Nat) → Dialogue UploadEvent (Uploader.After Record)
  | 0 => u.execute target file
  | n + 1 => do
    let (_, u) ← u.insist target file n
    u.resume

/-- What holds of an upload on its way. -/
structure Course (σ : Type) where
  /-- The session can take the step of this phase, with the peer in this state. -/
  ready : Phase → Session → σ → Prop
  /-- The call may return this record, with the peer in this state. -/
  arrived : Record → σ → Prop

namespace Course

variable {σ : Type} (course : Course σ)

/-- After a step in this phase. -/
def AfterStep (phase : Phase) {bound : Nat} : StepResult bound → σ → Prop
  | .next phase s _, t => course.ready phase s t
  | .finished _ file, t => course.arrived file t
  | .failed _ s, t => course.ready (s.resumeAt phase) s t

/-- After a drive. -/
def AfterDrive : Uploader.Outcome → σ → Prop
  | .finished _ file, t => course.arrived file t
  | .suspended _ failedIn s, t => course.ready (s.resumeAt failedIn) s t

/-- After an initiation. -/
def AfterInitiation : Initiated → σ → Prop
  | .created file, t => course.arrived file t
  | .opened phase s, t => course.ready phase s t
  | .failed _, _ => True

/-- After a call. -/
structure AfterCall (chunkSize : ChunkSize) (after : Uploader.After Record) (t : σ) : Prop where
  chunkSize_eq : after.2.chunkSize = chunkSize
  arrived : ∀ file, after.1 = .ok file → course.arrived file t
  ready : ∀ failedIn s, after.2.state = .suspended failedIn s →
    course.ready (s.resumeAt failedIn) s t

/-- Every step of a session that is ready keeps to the course. -/
def KeptBy (env : Environment σ) (C : Contract σ) (chunkSize : ChunkSize) : Prop :=
  ∀ phase s t, C.good t → course.ready phase s t →
    (step chunkSize s phase).Meets env C (course.AfterStep phase) t

variable {course} {env : Environment σ} {C : Contract σ} {chunkSize : ChunkSize}

/-! ### Drives -/

theorem driveWithin_meets (kept : course.KeptBy env C chunkSize) {bound : Nat} {phase : Phase}
    {s : Session} (enough : s.stepsLeft phase < bound) {t : σ} (good : C.good t)
    (ready : course.ready phase s t) :
    (Uploader.driveWithin chunkSize bound phase s enough).Meets env C course.AfterDrive t := by
  induction bound generalizing phase s t with
  | zero => exact absurd enough (Nat.not_lt_zero _)
  | succ bound ih =>
    rw [Uploader.driveWithin, Dialogue.meets_bind]
    refine (kept phase s t good ready).mono ?_
    intro result u good after
    rcases result with ⟨phase, s, fewer⟩ | ⟨s, file⟩ | ⟨cause, s⟩
    · exact ih _ good after
    · exact ⟨good, after⟩
    · exact ⟨good, after⟩

theorem drive_meets (kept : course.KeptBy env C chunkSize) {phase : Phase} {s : Session} {t : σ}
    (good : C.good t) (ready : course.ready phase s t) :
    (Uploader.drive chunkSize phase s).Meets env C course.AfterDrive t :=
  driveWithin_meets kept _ good ready

/-! ### Calls -/

theorem finish_meets {u : Uploader} {session : SessionId} {file : Record} {t : σ}
    (good : C.good t) (arrived : course.arrived file t) :
    (u.finish session file).Meets env C (course.AfterCall u.chunkSize) t := by
  refine ⟨good, rfl, ?_, ?_⟩
  · rintro _ ⟨⟩
    exact arrived
  · rintro _ _ ⟨⟩

theorem giveUp_meets {u : Uploader} {session : SessionId} {cause : StepError} {t : σ}
    (good : C.good t) :
    (u.giveUp session cause).Meets env C (course.AfterCall u.chunkSize) t := by
  refine ⟨good, rfl, ?_, ?_⟩
  · rintro _ ⟨⟩
  · rintro _ _ ⟨⟩

theorem suspend_meets {u : Uploader} {cause : StepError} {failedIn : Phase} {s : Session} {t : σ}
    (good : C.good t) (ready : course.ready (s.resumeAt failedIn) s t) :
    (u.suspend cause failedIn s).Meets env C (course.AfterCall u.chunkSize) t := by
  refine ⟨good, rfl, ?_, ?_⟩
  · rintro _ ⟨⟩
  · rintro _ _ ⟨⟩
    exact ready

theorem proceed_meets {u : Uploader} (kept : course.KeptBy env C u.chunkSize) {phase : Phase}
    {s : Session} {t : σ} (good : C.good t) (ready : course.ready phase s t) :
    (u.proceed phase s).Meets env C (course.AfterCall u.chunkSize) t := by
  rw [Uploader.proceed, Dialogue.meets_bind]
  refine (drive_meets kept good ready).mono ?_
  intro outcome v good after
  rcases outcome with ⟨session, file⟩ | ⟨cause, failedIn, s⟩
  · exact finish_meets good after
  · exact suspend_meets good after

theorem resume_meets {u : Uploader} (kept : course.KeptBy env C u.chunkSize) {t : σ}
    (good : C.good t) (ready : ∀ failedIn s, u.state = .suspended failedIn s →
      course.ready (s.resumeAt failedIn) s t) :
    u.resume.Meets env C (course.AfterCall u.chunkSize) t := by
  rw [Uploader.resume]
  split
  · next failedIn s h => exact proceed_meets kept good (ready failedIn s h)
  · refine ⟨good, rfl, ?_, ready⟩
    rintro _ ⟨⟩

theorem execute_meets {u : Uploader} (kept : course.KeptBy env C u.chunkSize)
    {target : UploadTarget} {file : UploadFile} {t : σ}
    (opens : ∀ id, (initiate u.chunkSize id target file).Meets env C course.AfterInitiation t) :
    (u.execute target file).Meets env C (course.AfterCall u.chunkSize) t := by
  let begun : Uploader := { u with sessions := u.sessions + 1 }
  simp only [Uploader.execute, Dialogue.meets_bind]
  refine (opens _).mono ?_
  intro initiated v good after
  rcases initiated with record | ⟨phase, s⟩ | cause
  · exact finish_meets (u := begun) good after
  · exact proceed_meets (u := begun) kept good after
  · exact giveUp_meets (u := begun) good

/-- **An upload and any number of resumptions** keep to the course that every step keeps to. -/
theorem insist_meets {u : Uploader} (kept : course.KeptBy env C u.chunkSize)
    {target : UploadTarget} {file : UploadFile} {t : σ}
    (opens : ∀ id, (initiate u.chunkSize id target file).Meets env C course.AfterInitiation t)
    (resumes : Nat) :
    (u.insist target file resumes).Meets env C (course.AfterCall u.chunkSize) t := by
  induction resumes with
  | zero => exact execute_meets kept opens
  | succ n ih =>
    rw [Uploader.insist, Dialogue.meets_bind]
    refine ih.mono ?_
    rintro ⟨result, u'⟩ v good after
    obtain ⟨same, -, ready⟩ := after
    simp only at same ready ⊢
    rw [← same] at kept ⊢
    exact resume_meets kept good ready

end Course

end Depot
