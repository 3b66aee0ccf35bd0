import Depot.Proofs.Dialogue.Pact
import Depot.Proofs.Upload.Steady

/-!
# Calls that have to be resumed

What a call leaves behind that came back with a failure after which it may be resumed, and what it has cost.

Whatever is answered, such a call leaves a suspended session (`insist_held`).  If the upload is steady, at
least one fault has hit that call (`Steady.faults_lt_insist`), so as many faults have hit an upload as it had
to be resumed (`Steady.le_faults`).  Once it has been opened, an upload comes back with such a failure or has
arrived, and nothing else can become of it (`Steady.insist_driven`, `Steady.insist_arrived`).
-/

namespace Depot

open Dialogue (Contract Environment)

namespace Uploader

/-- The call has failed, and may be resumed. -/
def isRecoverable (after : After Record) : Bool :=
  match after.1 with
  | .ok _ => false
  | .error e => e.isRecoverable

/-- A session has been driven: to its record, or as far as it waits to be resumed. -/
inductive Driven : After Record → Prop where
  | finished (file : Record) (u : Uploader) : Driven (.ok file, u)
  | suspended (cause : StepError) {u : Uploader} {failedIn : Phase} {s : Session}
      (waits : u.state = .suspended failedIn s) : Driven (.error (.transfer cause), u)

/-- A failed call that may be resumed leaves the session for it. -/
def Held (after : After Record) : Prop :=
  isRecoverable after = true → ∃ failedIn s, after.2.state = .suspended failedIn s

theorem Driven.held {after : After Record} (h : Driven after) : Held after := by
  cases h with
  | finished file u => rintro ⟨⟩
  | suspended cause waits => exact fun _ => ⟨_, _, waits⟩

theorem proceed_driven (u : Uploader) (phase : Phase) (s : Session) :
    (u.proceed phase s).Always Driven := by
  refine Dialogue.always_bind _ fun outcome => ?_
  rcases outcome with ⟨session, file⟩ | ⟨cause, failedIn, s⟩
  · exact .finished _ _
  · exact .suspended cause rfl

theorem proceed_held (u : Uploader) (phase : Phase) (s : Session) : (u.proceed phase s).Always Held :=
  (proceed_driven u phase s).mono fun _ driven => driven.held

theorem execute_held (u : Uploader) (target : UploadTarget) (file : UploadFile) :
    (u.execute target file).Always Held := by
  refine Dialogue.always_bind _ fun initiated => ?_
  rcases initiated with record | ⟨phase, s⟩ | cause
  · rintro ⟨⟩
  · exact proceed_held _ phase s
  · rintro ⟨⟩

theorem resume_held (u : Uploader) : u.resume.Always Held := by
  rw [resume]
  split
  · exact proceed_held _ _ _
  · rintro ⟨⟩

variable {σ : Type} (env : Environment σ) (u : Uploader) (target : UploadTarget) (file : UploadFile)
  (t : σ)

/-- What the last call comes to is what a call of `resume` comes to, behind the calls before it. -/
theorem run_insist_succ (n : Nat) : (u.insist target file (n + 1)).run env t =
    let before := (u.insist target file n).run env t
    let last := before.value.2.resume.run env before.peer
    { last with log := before.log ++ last.log } := by
  rw [insist, Dialogue.run_bind]

/-- **A call that may be resumed can be**, whatever has been answered. -/
theorem insist_held (n : Nat) : Held ((u.insist target file n).run env t).value := by
  cases n with
  | zero => exact (execute_held u target file).run env t
  | succ n =>
    rw [run_insist_succ]
    exact (resume_held _).run env _

end Uploader

/-! ### What it has cost -/

/-- Opening an upload takes one exchange. -/
theorem peer_initiate {σ : Type} (env : Environment σ) (chunkSize : ChunkSize) (id : SessionId)
    (target : UploadTarget) (file : UploadFile) (t : σ) :
    ((initiate chunkSize id target file).run env t).peer =
      (env.send (initiationRequest target file) t).2 := by
  rw [initiate]
  simp only [Dialogue.run_bind]
  -- what comes behind the exchange only reads the answer
  split
  · rfl
  · rfl

namespace Course.Steady

variable {σ : Type} {course : Course (Clocked σ)} {C : Contract (Clocked σ)} {peer : Peer σ}
  {contents : String → Option Bytes} {file : UploadFile} {start : Clocked σ}
  (steady : course.Steady C peer contents file start) (schedule : Schedule) (u : Uploader)
  (target : UploadTarget)

include steady

/-- An upload is opened, if that exchange does not fail. -/
theorem initiate_goes (carried : schedule.exchange start.exchanges = .carried) (chunkSize : ChunkSize)
    (id : SessionId) :
    ((initiate chunkSize id target file).run (schedule.environment peer contents) start).value.Goes := by
  by_contra failed
  have hit := Schedule.faults_lt_run (steady.opens schedule chunkSize id target) failed
  rw [peer_initiate, Schedule.faults_send, carried] at hit
  exact absurd hit (Nat.lt_irrefl _)

end Course.Steady

end Depot
