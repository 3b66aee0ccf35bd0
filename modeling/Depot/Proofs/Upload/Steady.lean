import Depot.Peer.Destination
import Depot.Proofs.Dialogue.Calm
import Depot.Proofs.Upload.InOneRequest
import Depot.Proofs.Upload.ThroughServer
import Depot.Proofs.Upload.ThroughStorage

/-!
# Uploads that only faults disturb

Where nothing goes wrong, no step of an upload fails: not only from the beginning, but from any state that a
failure may have left behind.  An upload to a peer is `Steady` if its steps keep to a course whatever goes
wrong, and do not fail on it when nothing does.  From that it follows, by induction on the steps left, that a
whole call does not fail then (`execute_goes`, `resume_goes`).

All three ways in which bytes may travel are steady (`Destination.steady`).  The courses are those along which
a file arrives whole, and that a step does not fail is shown for one step after the other, along good answers.
-/

namespace Depot

open Dialogue (Contract Environment)

/-! ### Going well -/

/-- The step has not failed. -/
def StepResult.Goes {bound : Nat} : StepResult bound → Prop
  | .next _ _ _ => True
  | .finished _ _ => True
  | .failed _ _ => False

/-- The initiation has not failed. -/
def Initiated.Goes : Initiated → Prop
  | .created _ => True
  | .opened _ _ => True
  | .failed _ => False

/-- The drive has come to its end. -/
def Uploader.Outcome.Goes : Uploader.Outcome → Prop
  | .finished _ _ => True
  | .suspended _ _ _ => False

/-- The call has come back with a record. -/
def Uploader.Goes (after : Uploader.After Record) : Prop := ∃ file, after.1 = .ok file

namespace Course

variable {σ : Type} {course : Course σ} {env : Environment σ} {C : Contract σ} {chunkSize : ChunkSize}

/-- No step fails that is on the course. -/
def GoesIn (course : Course σ) (env : Environment σ) (C : Contract σ) (chunkSize : ChunkSize) : Prop :=
  ∀ phase s t, C.good t → course.ready phase s t →
    (step chunkSize s phase).Meets env .any (fun result _ => result.Goes) t

/-- Uploads of a file to a peer, from `start` on, keep to a course whatever goes wrong, and do not fail on it
when nothing does. -/
structure Steady {σ : Type} (course : Course (Clocked σ)) (C : Contract (Clocked σ)) (peer : Peer σ)
    (contents : String → Option Bytes) (file : UploadFile) (start : Clocked σ) : Prop where
  kept : ∀ (schedule : Schedule) chunkSize, course.KeptBy (schedule.environment peer contents) C chunkSize
  goes : ∀ (schedule : Schedule) chunkSize,
    course.GoesIn (schedule.untroubled.environment peer contents) C chunkSize
  begins : ∀ (schedule : Schedule) chunkSize id target,
    (initiate chunkSize id target file).Meets (schedule.environment peer contents) C
      course.AfterInitiation start
  opens : ∀ (schedule : Schedule) chunkSize id target,
    (initiate chunkSize id target file).Meets (schedule.untroubled.environment peer contents) .any
      (fun initiated _ => initiated.Goes) start

end Course

/-! ### Through a server -/

namespace ChunkServer

variable {server : ChunkServer} {contents : String → Option Bytes} {content : Bytes}
  {schedule : Schedule} {chunkSize : ChunkSize} {s : Session} {t : Clocked Store}

/-- The server never has more bytes than the file. -/
theorem askOffset_goes (h : s.mode = .server) (fits : content.length < limit64)
    (underway : Underway server contents content s t.peer) :
    (askOffset s h).Meets (schedule.untroubled.environment server.peer contents) .any
      (fun result _ => result.Goes) t := by
  have shorter : t.peer.bytes.length ≤ content.length := underway.landed.length_le
  have counted : (server.landed t.peer.bytes.length).read readOffset? = .ok t.peer.bytes.length :=
    server.counts _ (Nat.lt_of_le_of_lt shorter fits)
  have inside : ¬ s.size < t.peer.bytes.length := by
    rw [underway.size_eq]
    exact Nat.not_lt.mpr shorter
  show (exchange s.offsetRequest >>= _).Meets _ _ _ t
  apply Schedule.calm_exchange (peer_offsetRequest _)
  intro u _
  simp only [Except.bind, counted, if_neg inside]
  exact ⟨trivial, trivial⟩

/-- A chunk fits where it is sent, and what answers the last one is the record. -/
theorem sendChunk_goes (h : s.mode = .server) (fits : content.length < limit64)
    (underway : Underway server contents content s t.peer)
    (place : s.startByte = t.peer.bytes.length) :
    (sendChunk chunkSize s h).Meets (schedule.untroubled.environment server.peer contents) .any
      (fun result _ => result.Goes) t := by
  have size_eq : s.size = content.length := underway.size_eq
  have shorter : t.peer.bytes.length ≤ content.length := underway.landed.length_le
  let stop := min (s.startByte + chunkSize.bytes) s.size
  have order : s.startByte ≤ stop := by simp only [stop]; omega
  have inside : stop ≤ content.length := by simp only [stop]; omega
  show (Dialogue.fetch s.file.source s.startByte stop >>= _).Meets _ _ _ t
  apply Schedule.calm_read (underway.holds.readRange_eq order inside)
  intro u same
  rw [← same] at underway place
  show (deliver s s.startByte (ByteSource.slice content s.startByte stop) _ _ >>= _).Meets _ _ _ u
  apply Schedule.calm_deliver (peer_nextChunk underway place order fits inside)
  intro v _
  rw [Dialogue.meets_bind, Dialogue.meets_tell]
  refine ⟨trivial, ?_⟩
  split
  · next last =>
    have whole : stop = content.length := by omega
    rw [if_pos whole, server.files]
    exact ⟨trivial, trivial⟩
  · exact ⟨trivial, trivial⟩

theorem goes (fits : content.length < limit64) :
    (course server contents content).GoesIn (schedule.untroubled.environment server.peer contents)
      (contract content).clocked chunkSize := by
  rintro phase s t - ⟨underway, place⟩
  cases phase with
  | authorizing =>
    rw [step_authorizing_server underway.mode]
    exact askOffset_goes underway.mode fits underway
  | transferring =>
    rw [step_transferring_server underway.mode]
    exact sendChunk_goes underway.mode fits underway place
  | completing => exact place.elim

theorem initiate_goes (id : SessionId) (target : UploadTarget) {file : UploadFile}
    (fits : file.size < limit64) :
    (initiate chunkSize id target file).Meets (schedule.untroubled.environment server.peer contents) .any
      (fun initiated _ => initiated.Goes) t := by
  obtain ⟨record, opening, body, noFile, reads, -, chunked⟩ := server.opens
  rw [initiate]
  apply Schedule.calm_exchange (peer_initiationRequest fits _)
  intro u _
  simp only [Except.bind, body, readInitiation_eq noFile reads chunked]
  exact ⟨trivial, trivial⟩

theorem steady (server : ChunkServer) {file : UploadFile} (holds : file.source.Holds contents content)
    (fits : content.length < limit64) :
    (course server contents content).Steady (contract content).clocked server.peer contents file
      (.start .empty) where
  kept _ _ := kept fits
  goes _ _ := goes fits
  begins _ _ id target := initiate_meets id target holds fits List.nil_prefix
  opens _ _ id target := initiate_goes id target (holds.size_eq.trans_lt fits)

end ChunkServer

/-! ### Straight to storage, in one request -/

namespace WholeStorage

variable {w : WholeStorage} {contents : String → Option Bytes} {content : Bytes}
  {schedule : Schedule} {chunkSize : ChunkSize} {s : Session} {t : Clocked Vault}

theorem askSignature_goes (h : ∃ r, s.mode = .single r) :
    (askSignature s h).Meets (schedule.untroubled.environment w.peer contents) .any
      (fun result _ => result.Goes) t := by
  obtain ⟨signed, reads, -⟩ := w.signs (t.peer.issued + 1)
  show (exchange (ticketRequest s) >>= _).Meets _ _ _ t
  apply Schedule.calm_exchange peer_ticketRequest
  intro u _
  simp only [Except.bind, reads]
  exact ⟨trivial, trivial⟩

/-- The ticket of an armed session is taken. -/
theorem sendWhole_goes {signed : SignedRequest} (h : s.mode = .single signed)
    (holds : s.file.source.Holds contents content) (armed : Armed w signed t.peer) :
    (sendWhole s signed h).Meets (schedule.untroubled.environment w.peer contents) .any
      (fun result _ => result.Goes) t := by
  obtain ⟨request, sends, outside, known⟩ := armed.bears.sent
  have taken : w.peer (request.withBody (.bytes content)).withProgress t.peer =
      (.ok w.stored, t.peer.store t.peer.issued content) := peer_armed outside known armed.fresh rfl
  show (Dialogue.fetch s.file.source 0 s.size >>= _).Meets _ _ _ t
  apply Schedule.calm_read holds.readRange_whole
  intro u same
  rw [← same] at taken
  simp only [sends]
  apply Schedule.calm_deliver taken
  intro v _
  rw [Dialogue.meets_bind, Dialogue.meets_tell]
  exact ⟨trivial, trivial, trivial⟩

theorem completeWhole_goes {bound : Nat} (size : t.peer.size = content.length)
    (stored : t.peer.object = some content) :
    (completeWhole s : Dialogue UploadEvent (StepResult bound)).Meets
      (schedule.untroubled.environment w.peer contents) .any (fun result _ => result.Goes) t := by
  apply Schedule.calm_exchange (peer_completionRequest size stored)
  intro u _
  simp only [Except.bind, w.completes]
  exact ⟨trivial, trivial⟩

theorem goes : (course w contents content).GoesIn (schedule.untroubled.environment w.peer contents)
    Contract.any.clocked chunkSize := by
  rintro phase s t - ⟨underway, place⟩
  obtain ⟨signed, mode⟩ := underway.mode
  cases phase with
  | authorizing =>
    rw [step_authorizing_single mode]
    exact askSignature_goes ⟨signed, mode⟩
  | transferring =>
    obtain ⟨held, holding, armed⟩ := place
    rw [step_transferring_single holding]
    exact sendWhole_goes holding underway.holds armed
  | completing =>
    rw [step_completing_single mode]
    exact completeWhole_goes underway.size place

theorem initiate_goes (id : SessionId) (target : UploadTarget) {file : UploadFile}
    (fits : file.size < limit64) :
    (initiate chunkSize id target file).Meets (schedule.untroubled.environment w.peer contents) .any
      (fun initiated _ => initiated.Goes) t := by
  obtain ⟨record, opening, grant, body, noFile, opens, direct, storage, whole, -⟩ :=
    w.opens (t.peer.issued + 1)
  rw [initiate]
  apply Schedule.calm_exchange (peer_initiationRequest target fits)
  intro u _
  simp only [Except.bind, body, readInitiation, if_neg noFile, opens, Opening.mode, if_pos direct, storage,
    whole]
  exact ⟨trivial, trivial⟩

theorem steady (w : WholeStorage) {file : UploadFile} (holds : file.source.Holds contents content)
    (fits : content.length < limit64) (start : Clocked Vault) :
    (course w contents content).Steady Contract.any.clocked w.peer contents file start where
  kept _ _ := kept
  goes _ _ := goes
  begins _ _ id target := initiate_meets id target holds fits
  opens _ _ id target := initiate_goes id target (holds.size_eq.trans_lt fits)

end WholeStorage

/-! ### Straight to storage, in parts -/

namespace DirectStorage

variable {d : DirectStorage} {contents : String → Option Bytes} {content : Bytes}
  {schedule : Schedule} {chunkSize : ChunkSize} {s : Session} {m : Multipart} {t : Clocked Vault}

theorem openStorage_goes (h : s.mode = .multipart m) (closed : m.storageId = none)
    (asks : m.initiate.AsksFor d.errand .opening) :
    (openStorage s m h closed).Meets (schedule.untroubled.environment d.peer contents) .any
      (fun result _ => result.Goes) t := by
  obtain ⟨request, sends, outside, known⟩ := asks.sent
  obtain ⟨id, named⟩ := d.names t.peer.turn
  simp only [openStorage, sends]
  apply Schedule.calm_exchange (peer_opening request outside known)
  intro u _
  simp only [named]
  exact ⟨trivial, trivial⟩

/-- Only a grant of no bytes at all is refused, and only where some are wanted. -/
theorem grantedLength_eq_none {granted : Option Nat} {wanted room : Nat}
    (refused : grantedLength granted wanted room = none) : granted = some 0 ∧ 0 < wanted := by
  unfold grantedLength at refused
  split at refused
  · cases refused
  · split at refused
    · next n empty => exact ⟨congrArg some empty.1, empty.2⟩
    · cases refused

/-- **A part is granted, read and taken**, unless it is granted without a byte. -/
theorem sendPart_goes (generous : (Destination.parts d).Generous content) {storageId : String}
    (h : s.mode = .multipart m) (opened : m.storageId = some storageId)
    (underway : Underway d contents content s m t.peer) :
    (sendPart s m storageId h opened).Meets (schedule.untroubled.environment d.peer contents) .any
      (fun result _ => result.Goes) t := by
  have size_eq : s.size = content.length := underway.size_eq
  have within := underway.within
  let wanted := min (s.startByte + m.partSize.bytes) s.size - s.startByte
  have wanted_le : wanted ≤ s.size - s.startByte := by simp only [wanted]; omega
  obtain ⟨grant, reads, asks⟩ := d.grants t.peer.turn m.nextPart
  obtain ⟨request, sends, outside, known⟩ := asks.sent
  show (exchange (partRequest s m storageId wanted) >>= _).Meets _ _ _ t
  apply Schedule.calm_exchange (peer_partRequest _ _ _)
  intro u _
  simp only [Except.bind, reads]
  split
  · next refused =>
    -- no bytes are granted though some are wanted, so there are some
    obtain ⟨nothing, wants⟩ := grantedLength_eq_none refused
    have filled : content ≠ [] := by
      rintro rfl
      simp only [size_eq, List.length_nil] at wants
      omega
    exact absurd nothing (generous filled _ _ grant reads)
  next length granted =>
  have length_le := grantedLength_le granted wanted_le
  have inside : s.startByte + length ≤ content.length := by omega
  apply Schedule.calm_read (underway.holds.readRange_eq (Nat.le_add_right _ _) inside)
  intro v _
  simp only [sends]
  let data := ByteSource.slice content s.startByte (s.startByte + length)
  -- the storage takes the part whatever it has of it, so there is nothing to know about its parts here
  have taken := peer_part (request.withBody (.bytes data)).withProgress (v := v.peer) outside known rfl
  apply Schedule.calm_deliver taken
  intro w _
  simp only [d.tags, Dialogue.meets_bind, Dialogue.meets_tell]
  refine ⟨trivial, ?_⟩
  split
  · exact ⟨trivial, trivial⟩
  · exact ⟨trivial, trivial⟩

theorem sendManifest_goes {signed : SignedRequest} {file : Record} {bound : Nat}
    (underway : Underway d contents content s m t.peer) (whole : s.startByte = content.length)
    (asks : signed.AsksFor d.errand .assembly) :
    (sendManifest s m file signed : Dialogue UploadEvent (StepResult bound)).Meets
      (schedule.untroubled.environment d.peer contents) .any (fun result _ => result.Goes) t := by
  obtain ⟨request, sends, outside, known⟩ := asks.sent
  let carrying := request.withBody (.text (Manifest.render m.parts))
  have made : assembly carrying t.peer = some content := underway.assembly_eq whole _
  simp only [sendManifest, sends]
  apply Schedule.calm_exchange (peer_assembly carrying outside known made)
  intro u _
  exact ⟨trivial, trivial⟩

theorem completeParts_goes {bound : Nat} (underway : Underway d contents content s m t.peer)
    (whole : s.startByte = content.length) :
    (completeParts s m : Dialogue UploadEvent (StepResult bound)).Meets
      (schedule.untroubled.environment d.peer contents) .any (fun result _ => result.Goes) t := by
  rw [completeParts]
  split
  · next file signed pending =>
    exact sendManifest_goes underway whole (underway.finalize file signed pending).2
  obtain ⟨record, signed, reads, finalizes, asks⟩ := d.finalizes t.peer.turn
  apply Schedule.calm_exchange (peer_completionRequest _)
  intro u same
  have waiting : Underway d contents content s m u.peer := by
    rw [same]
    exact underway.of_parts rfl
  simp only [Except.bind, reads, finalizes]
  exact sendManifest_goes (waiting.finalized asks) whole asks

theorem goes (generous : (Destination.parts d).Generous content) :
    (course d contents content).GoesIn (schedule.untroubled.environment d.peer contents)
      (contract d content).clocked chunkSize := by
  rintro phase s t - ⟨⟨m, underway⟩, stands⟩
  cases phase with
  | authorizing => exact stands.elim
  | transferring =>
    rcases open? : m.storageId with - | storageId
    · rw [step_opening underway.mode open?]
      exact openStorage_goes underway.mode open? underway.initiate
    · rw [step_part underway.mode open?]
      exact sendPart_goes generous underway.mode open? underway
  | completing =>
    rw [step_completing_multipart underway.mode]
    exact completeParts_goes underway stands

theorem initiate_goes (id : SessionId) (target : UploadTarget) {file : UploadFile}
    (holds : file.source.Holds contents content) :
    (initiate chunkSize id target file).Meets (schedule.untroubled.environment d.peer contents) .any
      (fun initiated _ => initiated.Goes) t := by
  obtain ⟨record, -, -, body, -⟩ := d.opens
  obtain ⟨s, m, opened, -⟩ := readInitiation_eq chunkSize id target holds t.peer body
  rw [initiate]
  apply Schedule.calm_exchange (peer_initiationRequest _ _ _)
  intro u _
  simp only [Except.bind, body, opened]
  exact ⟨trivial, trivial⟩

theorem steady (d : DirectStorage) (generous : (Destination.parts d).Generous content) {file : UploadFile}
    (holds : file.source.Holds contents content) :
    (course d contents content).Steady (contract d content).clocked d.peer contents file
      (.start .empty) where
  kept _ _ := kept
  goes _ _ := goes generous
  begins _ _ id target := initiate_meets id target holds (.inl rfl)
  opens _ _ id target := initiate_goes id target holds

end DirectStorage

/-! ### Any destination -/

/-- **Uploads are steady**, whichever way their bytes travel, and what they arrive at is the file. -/
theorem Destination.steady (place : Destination) {contents : String → Option Bytes} {content : Bytes}
    {file : UploadFile} (holds : file.source.Holds contents content) (fits : content.length < limit64)
    (generous : place.Generous content) :
    ∃ (course : Course (Clocked place.State)) (C : Contract (Clocked place.State)),
      course.Steady C place.peer contents file (.start place.start) ∧
        ∀ record t, course.arrived record t →
          record = place.record ∧ place.file? t.peer = some content := by
  cases place with
  | chunks server =>
    refine ⟨_, _, ChunkServer.steady server holds fits, ?_⟩
    rintro record t ⟨landed, same⟩
    exact ⟨same, congrArg some landed⟩
  | whole storage =>
    refine ⟨_, _, WholeStorage.steady storage holds fits _, ?_⟩
    rintro record t ⟨stored, same⟩
    exact ⟨same, stored⟩
  | parts storage =>
    refine ⟨_, _, DirectStorage.steady storage generous holds, ?_⟩
    rintro record t ⟨made, same⟩
    exact ⟨same, made⟩

end Depot
