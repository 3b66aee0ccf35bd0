import Depot.Peer.Fault
import Depot.Peer.Route
import Depot.Proofs.Http.Request
import Depot.Proofs.Upload.Chronicle
import Depot.Proofs.Upload.Source

/-!
# Uploads with a grant

An upload goes straight to storage when the server answers its initiation with a grant (`Reply.Grants`).
Whatever is answered after that, what may be asked is a matter of the exchanges so far (`granted`); of all
that is answered, nothing is relied on but that grant, and that a read of the file gives what the file holds
or fails (`Environment.Reads`).

Both hold of every run that begins with such an answer (`follows_granted`), however often it is resumed.
-/

namespace Depot

open Dialogue (Environment Happening Log Pact exchanges)

variable {σ : Type} {env : Environment σ} {target : UploadTarget} {file : UploadFile} {content : Bytes}
  {grant : StorageGrant} {t : σ}

/-- The answer to an initiation opens an upload whose bytes go straight to storage, by this grant. -/
def Reply.Grants (reply : Reply) (grant : StorageGrant) : Prop :=
  ∃ record opening, reply.outcome.bind Response.record = .ok record ∧ record.modelType? ≠ some "file" ∧
    Opening.read? (.ofValue record.toJson) = some opening ∧ opening.behavior = some "s3" ∧
      opening.storage = some grant

/-- Whatever is read of a source is what these bytes have there. -/
structure Dialogue.Environment.Reads (env : Environment σ) (source : ByteSource) (content : Bytes) :
    Prop where
  size_eq : source.size = content.length
  slice : ∀ start stop t data, (env.read source start stop t).1 = .ok data →
    data = ByteSource.slice content start stop

/-- Over any connection, a source reads as what it holds. -/
theorem ByteSource.Holds.reads_over {source : ByteSource} {contents : String → Option Bytes} {τ : Type}
    (holds : source.Holds contents content) (schedule : Schedule) (peer : Peer τ) :
    (schedule.environment peer contents).Reads source content where
  size_eq := holds.size_eq
  slice := by
    intro start stop t data read
    simp only [Schedule.environment] at read
    -- a read that the schedule lets pass can still fail, behind the end of the source
    rcases fate : schedule.reading t.reads with - | cause
    · rw [fate] at read
      by_cases inside : start ≤ stop ∧ stop ≤ source.size
      · have held : stop ≤ content.length := by
          rw [← holds.size_eq]
          exact inside.2
        exact (Except.ok.inj ((holds.readRange_eq inside.1 held).symm.trans read)).symm
      · simp only [ByteSource.readRange, ByteSource.readRangeBy_outside .buffered inside] at read
        cases read
    · rw [fate] at read
      cases read

/-- A granted upload asks for its initiation, and then for what may be asked after what has happened. -/
def granted (target : UploadTarget) (file : UploadFile) (content : Bytes) (grant : StorageGrant)
    (may : Log UploadEvent → Request → Prop) : Pact UploadEvent where
  admits past request :=
    (exchanges past = [] ∧ request = initiationRequest target file) ∨ may past request
  relies
    | [], .sent _ reply => reply.Grants grant
    | _, .read source start stop (.ok data) =>
      source = file.source → data = ByteSource.slice content start stop
    | _, _ => True

variable {may : Log UploadEvent → Request → Prop}

/-- A read of the file is relied on. -/
theorem slice_of_relies {past : Log UploadEvent} {start stop : Nat} {data : Bytes}
    (relied : (granted target file content grant may).relies past
      (.read file.source start stop (.ok data))) : data = ByteSource.slice content start stop := by
  cases past <;> exact relied rfl

/-- The first answer is relied on. -/
theorem grants_of_relies {request : Request} {reply : Reply}
    (relied : (granted target file content grant may).relies [] (.sent request reply)) :
    reply.Grants grant := relied

/-- Behind the initiation, nothing is relied on but the reads. -/
theorem relies_of_from (reads : env.Reads file.source content) {past : Log UploadEvent} (begun : past ≠ [])
    {h : Happening UploadEvent} (came : h.From env) : (granted target file content grant may).relies past h := by
  rcases past with - | ⟨first, past⟩
  · exact absurd rfl begun
  cases h with
  | sent request reply => trivial
  | read source start stop outcome =>
    obtain ⟨u, rfl⟩ := came
    rcases read : (env.read source start stop u).1 with cause | data
    · trivial
    · rintro rfl
      exact reads.slice start stop u data read
  | told e => trivial

/-- An upload begins with its initiation. -/
theorem log_insist (env : Environment σ) (u : Uploader) (target : UploadTarget) (file : UploadFile) (resumes : Nat)
    (t : σ) : ∃ rest, ((u.insist target file resumes).run env t).log =
      .sent (initiationRequest target file) (env.send (initiationRequest target file) t).1 :: rest := by
  induction resumes with
  | zero => exact ⟨_, rfl⟩
  | succ n ih =>
    obtain ⟨rest, log⟩ := ih
    rw [Uploader.insist, Dialogue.run_bind]
    simp only [log, List.cons_append]
    exact ⟨_, rfl⟩

/-- **An upload whose initiation is granted**, and all its resumptions, can be relied on. -/
theorem follows_granted (reads : env.Reads file.source content)
    (grants : (env.send (initiationRequest target file) t).1.Grants grant) (u : Uploader) (resumes : Nat) :
    Dialogue.Follows (granted target file content grant may).relies []
      ((u.insist target file resumes).run env t).log := by
  obtain ⟨rest, log⟩ := log_insist env u target file resumes t
  rw [Dialogue.follows_iff]
  -- only of the first answer is more asked than that the environment has given it
  rintro (- | ⟨first, before⟩) h after split
  · obtain ⟨rfl, -⟩ := List.cons.inj (log.symm.trans split)
    exact grants
  · refine relies_of_from reads (List.cons_ne_nil _ _) ?_
    refine Dialogue.from_run (u.insist target file resumes) t h ?_
    rw [split]
    exact List.mem_append_right _ List.mem_cons_self

/-! ### What a grant opens -/

section Opened

variable {reply : Reply} (grants : reply.Grants grant) (chunkSize : ChunkSize) (id : SessionId)
  (target : UploadTarget) (file : UploadFile)

include grants

/-- A grant for the whole file opens a session that has the signed request. -/
theorem Reply.Grants.opens_single (whole : grant.chunked = false) : ∃ s,
    initiated chunkSize id target file reply = .opened .transferring s ∧ s.file = file ∧
      s.mode = .single grant.request := by
  obtain ⟨record, opening, reads, noFile, opens, direct, storage⟩ := grants
  simp only [initiated, reads, readInitiation, if_neg noFile, opens, Opening.mode, if_pos direct, storage,
    whole, Bool.false_eq_true, if_false]
  exact ⟨_, rfl, rfl, rfl⟩

/-- A grant for parts opens a session that is not open at the storage yet. -/
theorem Reply.Grants.opens_multipart (parts : grant.chunked = true) : ∃ s partSize,
    initiated chunkSize id target file reply = .opened .transferring s ∧ s.file = file ∧ s.startByte = 0 ∧
      s.mode = .multipart ⟨grant.request, partSize, none, [], none⟩ := by
  obtain ⟨record, opening, reads, noFile, opens, direct, storage⟩ := grants
  simp only [initiated, reads, readInitiation, if_neg noFile, opens, Opening.mode, if_pos direct, storage,
    parts, if_true]
  exact ⟨_, _, rfl, rfl, rfl, rfl⟩

end Opened

/-! ### What is asked for -/

/-- A signed request goes to storage, and carries nothing of its own. -/
theorem SignedRequest.sent_outside {signed : SignedRequest} {request : Request}
    (sends : signed.toRequest? = some request) : request.isApiRequest = false ∧ request.body = .empty := by
  unfold toRequest? at sends
  split at sends
  · cases sends
    exact ⟨rfl, rfl⟩
  · cases sends

/-- What goes to storage is nothing that the server is asked for. -/
theorem Route.of_outside {request : Request} (outside : request.isApiRequest = false) :
    isChunk request = false ∧ isCompletion request = false ∧ asksLanded request = false := by
  have elsewhere (path : String) : request.target ≠ .path path := by
    intro same
    rw [Request.isApiRequest, same] at outside
    cases outside
  simp [isChunk, isCompletion, asksLanded, elsewhere]

@[simp] theorem asksLanded_offsetRequest (s : Session) : Route.asksLanded s.offsetRequest = true := by
  simp [Route.asksLanded, Session.offsetRequest]

@[simp] theorem isCompletion_offsetRequest (s : Session) : Route.isCompletion s.offsetRequest = false := by
  simp [Route.isCompletion, Session.offsetRequest]

@[simp] theorem asksLanded_completionRequest (s : Session) :
    Route.asksLanded (completionRequest s) = false := by
  simp [Route.asksLanded, completionRequest]

@[simp] theorem isCompletion_completionRequest (s : Session) :
    Route.isCompletion (completionRequest s) = true := by
  simp [Route.isCompletion, completionRequest]

end Depot
