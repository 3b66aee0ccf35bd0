import Depot.Proofs.Upload.Invariant
import Depot.Proofs.Upload.ThroughServer

/-!
# What a failed step keeps

A step that fails leaves its session as it was, whatever it had done by then: only the length of the chunk that
was sent last may differ.  There is one exception, and it is no loss: the completion of an upload in parts keeps
the request for the manifest, once the server has given it out (`Session.Obtains`), even if the manifest cannot
be sent.

The phase that failed is noted beside the session (`proceed_leads_failed`), so a resumption goes on from there.
-/

namespace Depot

open Dialogue (Log)

/-- In the completion of an upload in parts, the server has given out the request for the manifest. -/
structure Session.Obtains (s : Session) (m : Multipart) (phase : Phase) (log : Log UploadEvent)
    (given : Record × SignedRequest) : Prop where
  phase : phase = .completing
  mode : s.mode = .multipart m
  pending : m.finalize = none
  answered : ∃ reply rest, log = .sent (completionRequest s) reply :: rest ∧ reply.finalization = .ok given

section Steps

variable {chunkSize : ChunkSize} {s s' : Session} {m : Multipart} {phase : Phase} {log more : Log UploadEvent}
  {cause : StepError} {given : Record × SignedRequest}

/-! ### By the way in which bytes travel -/

theorem ServerStep.keeps (h : ServerStep chunkSize s phase more (.failed cause s')) :
    s' = { s with chunkLength := s'.chunkLength } := by
  cases h <;> rfl

/-- A request in one piece is sent from the first byte, and there such a session stands before it is sent. -/
theorem WholeStep.keeps {signed : SignedRequest} (mode : s.mode = .single signed)
    (sound : s.Sound (.underway phase) log) (h : WholeStep s signed phase more (.failed cause s')) :
    s' = { s with chunkLength := s'.chunkLength } := by
  have start := sound.single signed mode
  cases h with
  | unread => rw [start]; rfl
  | unsupported => rw [start]; rfl
  | unsent => rw [start]; rfl
  | _ => rfl

theorem PartStep.keeps (mode : s.mode = .multipart m) (h : PartStep s m phase more (.failed cause s')) :
    (s' = { s with chunkLength := s'.chunkLength } ∧ ∀ given, ¬ s.Obtains m phase more given) ∨
      ∃ given, s.Obtains m phase more given ∧
        s' = { s with mode := .multipart { m with finalize := some given } } := by
  cases h with
  | uncompleted pending fails =>
    -- an answer is not both a failure and a request for the manifest
    refine .inl ⟨rfl, fun given obtains => ?_⟩
    obtain ⟨reply, rest, ⟨⟩, taken⟩ := obtains.answered
    cases fails.symm.trans taken
  | @completed reply file signed log _ pending given assembling =>
    refine .inr ⟨(file, signed), ⟨rfl, mode, pending, reply, log, rfl, given⟩, ?_⟩
    cases assembling <;> rfl
  | assembled given assembling =>
    -- the request was obtained before, so nothing is obtained in this step
    refine .inl ⟨by cases assembling <;> rfl, fun _ obtains => ?_⟩
    cases given.symm.trans obtains.pending
  | _ => exact .inl ⟨rfl, by rintro given ⟨⟨⟩⟩⟩

/-! ### Any step -/

/-- What was obtained is obtained for the session's own mode, and once. -/
theorem Session.Obtains.unique {m' : Multipart} {given' : Record × SignedRequest}
    (h : s.Obtains m phase log given) (h' : s.Obtains m' phase log given') : m = m' ∧ given = given' := by
  obtain ⟨reply, rest, rfl, taken⟩ := h.answered
  obtain ⟨_, _, ⟨⟩, taken'⟩ := h'.answered
  cases h.mode.symm.trans h'.mode
  cases taken.symm.trans taken'
  exact ⟨rfl, rfl⟩

/-- **The call notes which phase has failed**, beside the session that the failed step has left. -/
theorem proceed_leads_failed {u : Uploader} (fails : (step u.chunkSize s phase).Leads more (.failed cause s')) :
    (u.proceed phase s).Leads (more ++ [.told (.error s'.id cause.message cause.status?)])
      (.error (.transfer cause), { u with state := .suspended phase s' }) := by
  rw [Uploader.proceed, Dialogue.leads_bind]
  refine ⟨.suspended cause phase s', more, [.told (.error s'.id cause.message cause.status?)], ?_, ?_, rfl⟩
  · rw [Uploader.drive, Uploader.driveWithin, Dialogue.leads_bind]
    exact ⟨_, more, [], fails, Dialogue.leads_pure.2 ⟨rfl, rfl⟩, (List.append_nil more).symm⟩
  · exact .emit (.done _)

/-- **A failed step loses nothing.**  The session it leaves differs from the one before in the length of the last
chunk only, and in the request for the manifest if that was obtained; the failed phase is noted beside it. -/
theorem failed_step_loses_nothing (reached : s.Reached chunkSize (.underway phase) log)
    (fails : (step chunkSize s phase).Leads more (.failed cause s')) :
    ((∀ m given, ¬ s.Obtains m phase more given) → s' = { s with chunkLength := s'.chunkLength }) ∧
    (∀ m given, s.Obtains m phase more given →
      s' = { s with mode := .multipart { m with finalize := some given } }) ∧
    ∀ u : Uploader, u.chunkSize = chunkSize →
      (u.proceed phase s).Leads (more ++ [.told (.error s'.id cause.message cause.status?)])
        (.error (.transfer cause), { u with state := .suspended phase s' }) := by
  have sound := reached.sound
  have transition : Transition chunkSize s phase more (.failed cause s') := step_transition fails
  have noted : ∀ u : Uploader, u.chunkSize = chunkSize →
      (u.proceed phase s).Leads (more ++ [.told (.error s'.id cause.message cause.status?)])
        (.error (.transfer cause), { u with state := .suspended phase s' }) := by
    rintro u rfl
    exact proceed_leads_failed fails
  -- both statements about the session are read off the same alternative of its way
  rw [← and_assoc]
  refine ⟨?_, noted⟩
  unfold Transition at transition
  split at transition
  · next mode =>
    exact ⟨fun _ => transition.keeps, fun _ _ obtains => by cases mode.symm.trans obtains.mode⟩
  · next mode =>
    exact ⟨fun _ => transition.keeps mode sound, fun _ _ obtains => by cases mode.symm.trans obtains.mode⟩
  · next m mode =>
    rcases transition.keeps mode with ⟨same, nothing⟩ | ⟨given, obtained, kept⟩
    · refine ⟨fun _ => same, fun m' given obtains => ?_⟩
      cases mode.symm.trans obtains.mode
      exact absurd obtains (nothing given)
    · refine ⟨fun nothing => absurd obtained (nothing m given), fun m' given' obtains => ?_⟩
      obtain ⟨rfl, rfl⟩ := obtained.unique obtains
      exact kept

end Steps

/-- A file that cannot be read: of the session that was opened, only the length of the chunk is another. -/
theorem failed_step_loses_nothing_unread : ∃ s s' : Session,
    initiated (.atLeastOne 2) ⟨1⟩ (.folder "p") (.ofBytes "a" [1, 2, 3]) (.ok ChunkServer.plain.opening) =
      .opened .transferring s ∧
    (step (.atLeastOne 2) s .transferring).Leads [.read s.file.source 0 2 (.error .early)]
      (.failed (.file .early) s') ∧
    s'.chunkLength = 2 ∧ s' = { s with chunkLength := s'.chunkLength } := by
  obtain ⟨record, opening, body, noFile, reads, -, chunked⟩ := ChunkServer.plain.opens
  let s : Session :=
    { id := ⟨1⟩, file := .ofBytes "a" [1, 2, 3], target := .folder "p", uploadId := opening.id, startByte := 0
      chunkLength := 0, behavior := opening.behavior, mode := .server }
  have opens : initiated (.atLeastOne 2) ⟨1⟩ (.folder "p") (.ofBytes "a" [1, 2, 3])
      (.ok ChunkServer.plain.opening) = .opened .transferring s := by
    have answer : (Reply.ok ChunkServer.plain.opening).outcome.bind Response.record = .ok record := body
    simp only [initiated, answer]
    exact ChunkServer.readInitiation_eq noFile reads chunked
  have fails : (step (.atLeastOne 2) s .transferring).Leads [.read s.file.source 0 2 (.error .early)]
      (.failed (.file .early) { s with chunkLength := 2 }) :=
    .read (.error .early) (.done _)
  obtain ⟨kept, -, -⟩ := failed_step_loses_nothing (.opened opens) fails
  exact ⟨s, _, opens, fails, rfl, kept (by rintro m given ⟨⟨⟩⟩)⟩

end Depot
