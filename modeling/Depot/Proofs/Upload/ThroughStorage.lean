import Depot.Peer.DirectStorage
import Depot.Proofs.Dialogue.Fault
import Depot.Proofs.Dictionary
import Depot.Proofs.Http.Request
import Depot.Proofs.Http.Response
import Depot.Proofs.Upload.Course
import Depot.Proofs.Upload.Manifest
import Depot.Proofs.Upload.Source
import Depot.Proofs.Upload.Step

/-!
# Uploads straight to storage arrive whole

An uploader, an honest server that signs its requests, and an honest storage, with a connection that fails as
a schedule wills.  Four things have to stay together: how many bytes have been acknowledged, which part is the
next one, which tags are known, and what the storage has under these numbers.

The invariant is that the listed parts, joined as the storage would join them now, are the acknowledged
bytes of the file (`Underway.aligned`).  A part whose acknowledgement is lost is not listed, so the storage
may have anything under its number; it is sent again under the same number, at whatever length is granted
then, and nothing that is listed is touched (`joined_store`).
-/

namespace Depot

namespace SignedRequest.AsksFor

variable {signed : SignedRequest} {errand : (method url : String) → Option Errand} {wanted : Errand}

/-- A signed request is sent, and the storage knows it. -/
theorem sent (h : signed.AsksFor errand wanted) :
    ∃ request, signed.toRequest? = some request ∧ request.isApiRequest = false ∧
      errand request.method request.target.text = some wanted := by
  obtain ⟨token, known⟩ := h
  exact ⟨_, if_pos token, rfl, known⟩

end SignedRequest.AsksFor

namespace Multipart

variable (m : Multipart)

/-- A tag that is added is the tag of the next part. -/
theorem parts_concat (tag : String) :
    { m with tags := m.tags ++ [tag] }.parts = m.parts ++ [(m.nextPart, tag)] := by
  simp [parts, nextPart]

/-- The next part is none of those that are listed. -/
theorem ne_nextPart_of_mem_parts {p : Nat × String} (h : p ∈ m.parts) : p.1 ≠ m.nextPart := by
  obtain ⟨i, inside, rfl⟩ := List.mem_mapIdx.mp h
  show i + 1 ≠ m.tags.length + 1
  omega

end Multipart

namespace DirectStorage

open Dialogue (Contract)
open Route (isInitiation isChunk isCompletion)

variable {d : DirectStorage} {contents : String → Option Bytes} {content : Bytes}
  {schedule : Schedule} {chunkSize : ChunkSize} {s : Session} {m : Multipart} {t : Clocked Vault}

/-! ### Joining parts -/

namespace Vault

variable {v w : Vault}

theorem joined_congr (same : w.parts = v.parts) (listed : List (Nat × String)) :
    w.joined listed = v.joined listed := by
  induction listed with
  | nil => rfl
  | cons p rest ih => rw [joined, joined, same, ih]

/-- A part that is not listed makes no difference. -/
theorem joined_store {listed : List (Nat × String)} {number : Nat} {body : Bytes} {tag : String}
    (unlisted : ∀ p ∈ listed, p.1 ≠ number) :
    (v.store number body tag).joined listed = v.joined listed := by
  induction listed with
  | nil => rfl
  | cons p rest ih =>
    have other : (v.store number body tag).parts p.1 = v.parts p.1 :=
      if_neg (unlisted p List.mem_cons_self)
    rw [joined, joined, other, ih fun q hq => unlisted q (List.mem_cons_of_mem p hq)]

/-- The last part of a list is joined last. -/
theorem joined_concat {listed : List (Nat × String)} {number : Nat} {front body : Bytes} {tag : String}
    (joins : v.joined listed = some front) (stored : v.parts number = some (body, tag)) :
    v.joined (listed ++ [(number, tag)]) = some (front ++ body) := by
  induction listed generalizing front with
  | nil =>
    obtain rfl : [] = front := Option.some.inj joins
    simp [joined, stored]
  | cons p rest ih =>
    rw [joined] at joins
    rw [List.cons_append, joined]
    rcases known : v.parts p.1 with - | ⟨first, current⟩
    · rw [known] at joins
      exact absurd joins (by simp)
    rw [known] at joins
    -- a part whose tag is not the listed one would have spoilt the front already
    by_cases same : p.2 = current
    · simp only [if_pos same, Option.map_eq_some_iff] at joins ⊢
      obtain ⟨back, joinsBack, rfl⟩ := joins
      exact ⟨back ++ body, ih joinsBack, by rw [List.append_assoc]⟩
    · simp only [if_neg same] at joins
      exact absurd joins (by simp)

end Vault

/-! ### The invariant -/

/-- What may be seen: there is no object, or it is the file, and every manifest that is sent is accepted
and makes the file. -/
def contract (d : DirectStorage) (content : Bytes) : Contract Vault where
  good v := v.object = none ∨ v.object = some content
  admits request v := d.isManifest request → assembly request v = some content

/-- A session of an upload that the server has opened. -/
structure Underway (d : DirectStorage) (contents : String → Option Bytes) (content : Bytes)
    (s : Session) (m : Multipart) (v : Vault) : Prop where
  mode : s.mode = .multipart m
  holds : s.file.source.Holds contents content
  within : s.startByte ≤ content.length
  initiate : m.initiate.AsksFor d.errand .opening
  /-- Before the upload is open at the storage, no part is. -/
  unopened : m.storageId = none → m.tags = []
  /-- The listed parts are the bytes that have been acknowledged. -/
  aligned : v.joined m.parts = some (content.take s.startByte)
  finalize : ∀ file signed, m.finalize = some (file, signed) →
    file = d.record ∧ signed.AsksFor d.errand .assembly

/-- How far a session has come in a phase.  Parts are authorized one by one, so it never asks for all of them. -/
def Stands (content : Bytes) (s : Session) : Phase → Prop
  | .authorizing => False
  | .transferring => True
  | .completing => s.startByte = content.length

/-- An upload, wherever its session stands. -/
def course (d : DirectStorage) (contents : String → Option Bytes) (content : Bytes) :
    Course (Clocked Vault) where
  ready phase s t := (∃ m, Underway d contents content s m t.peer) ∧ Stands content s phase
  arrived file t := t.peer.object = some content ∧ file = d.record

namespace Underway

variable {v w : Vault}

theorem size_eq (h : Underway d contents content s m v) : s.size = content.length :=
  h.holds.size_eq

/-- Only the parts matter. -/
theorem of_parts (h : Underway d contents content s m v) (same : w.parts = v.parts) :
    Underway d contents content s m w :=
  { h with aligned := (Vault.joined_congr same m.parts).trans h.aligned }

/-- Before the upload is open at the storage, it does not matter what is there. -/
theorem of_unopened (h : Underway d contents content s m v) (closed : m.storageId = none) :
    Underway d contents content s m w := by
  have noParts : m.parts = [] := by rw [Multipart.parts, h.unopened closed]; rfl
  have aligned := h.aligned
  rw [noParts] at aligned
  exact { h with aligned := by rw [noParts]; exact aligned }

/-- A part that is not acknowledged makes no difference. -/
theorem of_store (h : Underway d contents content s m v) (body : Bytes) (tag : String) :
    Underway d contents content s m (v.next.store m.nextPart body tag) := by
  have unlisted : ∀ p ∈ m.parts, p.1 ≠ m.nextPart := fun p => m.ne_nextPart_of_mem_parts
  refine { h with aligned := ?_ }
  rw [Vault.joined_store unlisted]
  exact (Vault.joined_congr (w := v.next) (v := v) rfl m.parts).trans h.aligned

/-- The session behind a part of this length with this tag. -/
def acknowledge (s : Session) (m : Multipart) (length : Nat) (tag : String) : Session :=
  { s with
    chunkLength := length
    startByte := s.startByte + length
    mode := .multipart { m with tags := m.tags ++ [tag] } }

/-- **A part that is acknowledged is listed**, and then the listed parts go as far as it does. -/
theorem acknowledged (h : Underway d contents content s m v) (opened : m.storageId ≠ none)
    {length : Nat} (inside : s.startByte + length ≤ content.length) (tag : String) :
    Underway d contents content (acknowledge s m length tag) { m with tags := m.tags ++ [tag] }
      (v.next.store m.nextPart (ByteSource.slice content s.startByte (s.startByte + length)) tag) where
  mode := rfl
  holds := h.holds
  within := inside
  initiate := h.initiate
  unopened := fun closed => absurd closed opened
  aligned := by
    have order : s.startByte ≤ s.startByte + length := Nat.le_add_right _ _
    rw [Multipart.parts_concat, Vault.joined_concat (h.of_store _ tag).aligned (if_pos rfl),
      ByteSource.take_append_slice order]
    rfl
  finalize := h.finalize

/-- **The manifest lists parts that the storage has**, and when all bytes are sent, they make up the file. -/
theorem assembly_eq (h : Underway d contents content s m v) (whole : s.startByte = content.length)
    (request : Request) :
    assembly (request.withBody (.text (Manifest.render m.parts))) v = some content := by
  show (Manifest.read? (Manifest.render m.parts)).bind v.joined = some content
  rw [Manifest.read?_render, Option.bind_some, h.aligned, whole, List.take_length]

/-- The request for the manifest is kept in the session. -/
theorem finalized (h : Underway d contents content s m v) {signed : SignedRequest}
    (asks : signed.AsksFor d.errand .assembly) :
    Underway d contents content
      { s with mode := .multipart { m with finalize := some (d.record, signed) } }
      { m with finalize := some (d.record, signed) } v :=
  { h with
    mode := rfl
    finalize := by
      rintro _ _ ⟨⟩
      exact ⟨rfl, asks⟩ }

/-- A session is resumed where it failed. -/
theorem resumed (h : Underway d contents content s m t.peer) {phase : Phase}
    (stands : Stands content s phase) : (course d contents content).ready (s.resumeAt phase) s t := by
  have same : s.resumeAt phase = phase := by
    simp only [Session.resumeAt, h.mode]
  rw [same]
  exact ⟨⟨m, h⟩, stands⟩

end Underway

/-! ### Requests -/

/-- A request that neither is a manifest nor makes an object may be sent. -/
theorem permits_of_object {request : Request} {v : Vault} (good : (contract d content).good v)
    (other : d.isManifest request = false) (same : (d.peer request v).2.object = v.object) :
    (contract d content).Permits d.peer request v where
  before := good
  admits := by
    intro manifest
    exact absurd (other.symm.trans manifest) (by decide)
  after := by
    show _ ∨ _
    rwa [same]

section Signed

variable (request : Request) {v : Vault} (outside : request.isApiRequest = false)

include outside

theorem isManifest_signed {errand : Errand}
    (known : d.errand request.method request.target.text = some errand) :
    d.isManifest request = decide (errand = .assembly) := by
  rw [isManifest, outside, known]
  simp

theorem peer_opening (known : d.errand request.method request.target.text = some .opening) :
    d.peer request v = (.ok (d.opened v.turn), { v.next with parts := fun _ => none }) := by
  rw [peer, outside, if_neg Bool.false_ne_true, keep, known]

theorem peer_part {number : Nat} {data : Bytes}
    (known : d.errand request.method request.target.text = some (.part number))
    (body : request.body = .bytes data) :
    d.peer request v = (.ok (d.stored (d.tag v.turn)), v.next.store number data (d.tag v.turn)) := by
  rw [peer, outside, if_neg Bool.false_ne_true, keep, known, body]

theorem peer_assembly {object : Bytes}
    (known : d.errand request.method request.target.text = some .assembly)
    (made : assembly request v = some object) :
    d.peer request v = (.ok d.assembled, { v.next with object := some object }) := by
  rw [peer, outside, if_neg Bool.false_ne_true, keep, known, made]

end Signed

/-! ### Opening the upload at the storage -/

theorem openStorage_meets (h : s.mode = .multipart m) (closed : m.storageId = none)
    (underway : Underway d contents content s m t.peer) (good : (contract d content).good t.peer) :
    (openStorage s m h closed).Meets (schedule.environment d.peer contents)
      (contract d content).clocked ((course d contents content).AfterStep .transferring) t := by
  obtain ⟨request, sends, outside, known⟩ := underway.initiate.sent
  have acted := peer_opening request (v := t.peer) outside known
  have permits : (contract d content).Permits d.peer request t.peer := by
    refine permits_of_object good ?_ ?_
    · rw [isManifest_signed request outside known]
      rfl
    · rw [acted]
      rfl
  simp only [openStorage, sends]
  apply Schedule.meets_exchange (Underway d contents content s m) permits acted underway
    (underway.of_unopened closed)
  · intro cause u good waiting
    exact ⟨good, waiting.resumed trivial⟩
  intro u good _
  obtain ⟨id, named⟩ := d.names t.peer.turn
  let m' := { m with storageId := some id, tags := [] }
  have begun : Underway d contents content { s with mode := .multipart m', startByte := 0 } m' u.peer :=
    { mode := rfl
      holds := underway.holds
      within := Nat.zero_le _
      initiate := underway.initiate
      unopened := fun _ => rfl
      aligned := by rw [List.take_zero]; rfl
      finalize := underway.finalize }
  simp only [named]
  exact ⟨good, ⟨m', begun⟩, trivial⟩

/-! ### Sending a part -/

/-- No part goes beyond the end of the file. -/
theorem grantedLength_le {granted : Option Nat} {wanted room length : Nat}
    (h : grantedLength granted wanted room = some length) (le : wanted ≤ room) : length ≤ room := by
  unfold grantedLength at h
  split at h
  · cases h
    exact le
  · split at h
    · cases h
    · cases h
      exact Nat.min_le_right _ _

theorem partNumber?_partRequest (storageId : String) (wanted : Nat) :
    partNumber? (partRequest s m storageId wanted) = some m.nextPart := by
  simp [partNumber?, partRequest, Json.get?, lookup_cons]

theorem peer_partRequest (storageId : String) (wanted : Nat) (v : Vault) :
    d.peer (partRequest s m storageId wanted) v = (.ok (d.grant v.turn m.nextPart), v.next) := by
  have inside : (partRequest s m storageId wanted).isApiRequest = true := rfl
  have chunk : isChunk (partRequest s m storageId wanted) = true := by simp [isChunk, partRequest]
  rw [peer, inside, if_pos rfl, serve, chunk, if_pos rfl, partNumber?_partRequest]

theorem permits_partRequest (storageId : String) (wanted : Nat) {v : Vault}
    (good : (contract d content).good v) :
    (contract d content).Permits d.peer (partRequest s m storageId wanted) v := by
  refine permits_of_object good rfl ?_
  rw [peer_partRequest]
  rfl

/-- A request that brings a part may be sent. -/
theorem permits_part {request : Request} {v : Vault} {number : Nat} {data : Bytes}
    (good : (contract d content).good v) (outside : request.isApiRequest = false)
    (known : d.errand request.method request.target.text = some (.part number))
    (body : request.body = .bytes data) : (contract d content).Permits d.peer request v := by
  refine permits_of_object good ?_ ?_
  · rw [isManifest_signed request outside known]
    rfl
  · rw [peer_part request outside known body]
    rfl

/-- **A part is the next slice of the file**, at whatever length it is granted.  When its tag is known, the
listed parts go as far as the slice does. -/
theorem sendPart_meets {storageId : String} (h : s.mode = .multipart m)
    (opened : m.storageId = some storageId) (underway : Underway d contents content s m t.peer)
    (good : (contract d content).good t.peer) :
    (sendPart s m storageId h opened).Meets (schedule.environment d.peer contents)
      (contract d content).clocked ((course d contents content).AfterStep .transferring) t := by
  have size_eq : s.size = content.length := underway.size_eq
  have within := underway.within
  let wanted := min (s.startByte + m.partSize.bytes) s.size - s.startByte
  have wanted_le : wanted ≤ s.size - s.startByte := by simp only [wanted]; omega
  show (exchange (partRequest s m storageId wanted) >>= _).Meets _ _ _ t
  apply Schedule.meets_exchange (Underway d contents content s m)
    (permits_partRequest storageId wanted good) (peer_partRequest _ _ _) underway
    (underway.of_parts rfl)
  · intro cause u good authorized
    exact ⟨good, authorized.resumed trivial⟩
  intro u good same
  -- an authorization does not touch the parts
  replace underway : Underway d contents content s m u.peer := by
    rw [same]
    exact underway.of_parts rfl
  obtain ⟨grant, reads, asks⟩ := d.grants t.peer.turn m.nextPart
  obtain ⟨request, sends, outside, known⟩ := asks.sent
  simp only [Except.bind, reads]
  split
  · exact ⟨good, underway.resumed trivial⟩
  next length granted =>
  have length_le := grantedLength_le granted wanted_le
  have inside : s.startByte + length ≤ content.length := by omega
  apply Schedule.meets_read good (underway.holds.readRange_eq (Nat.le_add_right _ _) inside)
  · intro cause v same
    rw [← same] at good underway
    exact ⟨good, underway.resumed trivial⟩
  intro v same
  rw [← same] at good underway
  simp only [sends]
  let data := ByteSource.slice content s.startByte (s.startByte + length)
  let sending := { s with chunkLength := length }
  have acted := peer_part (request.withBody (.bytes data)).withProgress (v := v.peer) outside known rfl
  -- a part that may or may not be stored is not listed
  have unlisted := underway.of_store data (d.tag v.peer.turn)
  apply Schedule.meets_deliver (Underway d contents content sending m)
    (permits_part good outside known rfl) acted { underway with } { unlisted with }
  · intro cause w good unlisted
    exact ⟨good, unlisted.resumed trivial⟩
  intro w good stored
  have listed := underway.acknowledged (by rw [opened]; exact Option.some_ne_none _) inside
    (d.tag v.peer.turn)
  rw [← stored] at listed
  simp only [d.tags, Dialogue.meets_bind, Dialogue.meets_tell]
  refine ⟨good, ?_⟩
  split
  · exact ⟨good, ⟨_, listed⟩, trivial⟩
  · next last =>
    refine ⟨good, ⟨_, listed⟩, ?_⟩
    show s.startByte + length = content.length
    omega

/-! ### Completing -/

theorem peer_completionRequest (v : Vault) :
    d.peer (completionRequest s) v = (.ok (d.completion v.turn), v.next) := by
  have inside : (completionRequest s).isApiRequest = true := rfl
  have other : isChunk (completionRequest s) = false := by simp [isChunk, completionRequest]
  have completes : isCompletion (completionRequest s) = true := by simp [isCompletion, completionRequest]
  rw [peer, inside, if_pos rfl, serve, other, if_neg Bool.false_ne_true, completes, if_pos rfl]

/-- The manifest makes the file, and whether that is heard or not, the parts are still there. -/
theorem sendManifest_meets {signed : SignedRequest} {file : Record} {bound : Nat}
    (underway : Underway d contents content s m t.peer) (whole : s.startByte = content.length)
    (asks : signed.AsksFor d.errand .assembly) (same : file = d.record)
    (good : (contract d content).good t.peer) :
    (sendManifest s m file signed : Dialogue UploadEvent (StepResult bound)).Meets
      (schedule.environment d.peer contents) (contract d content).clocked
      ((course d contents content).AfterStep .completing) t := by
  obtain ⟨request, sends, outside, known⟩ := asks.sent
  let carrying := request.withBody (.text (Manifest.render m.parts))
  have made : assembly carrying t.peer = some content := underway.assembly_eq whole request
  have acted := peer_assembly carrying outside known made
  have permits : (contract d content).Permits d.peer carrying t.peer := by
    refine ⟨good, fun _ => made, ?_⟩
    rw [acted]
    exact .inr rfl
  simp only [sendManifest, sends]
  apply Schedule.meets_exchange (Underway d contents content s m) permits acted underway
    (underway.of_parts rfl)
  · intro cause u good waiting
    exact ⟨good, waiting.resumed whole⟩
  · intro u good assembled
    refine ⟨good, ?_, same⟩
    rw [assembled]

theorem completeParts_meets {bound : Nat} (underway : Underway d contents content s m t.peer)
    (whole : s.startByte = content.length) (good : (contract d content).good t.peer) :
    (completeParts s m : Dialogue UploadEvent (StepResult bound)).Meets
      (schedule.environment d.peer contents) (contract d content).clocked
      ((course d contents content).AfterStep .completing) t := by
  rw [completeParts]
  split
  · -- the request for the manifest is there from an earlier call
    next file signed pending =>
    obtain ⟨same, asks⟩ := underway.finalize file signed pending
    exact sendManifest_meets underway whole asks same good
  have permits : (contract d content).Permits d.peer (completionRequest s) t.peer := by
    refine permits_of_object good rfl ?_
    rw [peer_completionRequest]
    rfl
  apply Schedule.meets_exchange (Underway d contents content s m) permits (peer_completionRequest _)
    underway (underway.of_parts rfl)
  · intro cause u good waiting
    exact ⟨good, waiting.resumed whole⟩
  intro u good same
  obtain ⟨record, signed, reads, finalizes, asks⟩ := d.finalizes t.peer.turn
  have waiting : Underway d contents content s m u.peer := by
    rw [same]
    exact underway.of_parts rfl
  simp only [Except.bind, reads, finalizes]
  exact sendManifest_meets (waiting.finalized asks) whole asks rfl good

/-! ### Whole uploads -/

theorem kept : (course d contents content).KeptBy (schedule.environment d.peer contents)
    (contract d content).clocked chunkSize := by
  rintro phase s t good ⟨⟨m, underway⟩, stands⟩
  cases phase with
  | authorizing => exact stands.elim
  | transferring =>
    rcases open? : m.storageId with - | storageId
    · rw [step_opening underway.mode open?]
      exact openStorage_meets underway.mode open? underway good
    · rw [step_part underway.mode open?]
      exact sendPart_meets underway.mode open? underway good
  | completing =>
    rw [step_completing_multipart underway.mode]
    exact completeParts_meets underway stands good

theorem peer_initiationRequest (target : UploadTarget) (file : UploadFile) (v : Vault) :
    d.peer (initiationRequest target file) v = (.ok d.opening, v.next) := by
  cases target <;>
    simp [peer, serve, initiationRequest, Request.isApiRequest, isChunk, isCompletion, isInitiation]

/-- What the server answers opens a session that has nothing in the storage yet. -/
theorem readInitiation_eq (chunkSize : ChunkSize) (id : SessionId) (target : UploadTarget)
    {file : UploadFile} (holds : file.source.Holds contents content) {answer : Record} (v : Vault)
    (reads : d.opening.record = .ok answer) : ∃ s m,
      readInitiation chunkSize id target file answer = .opened .transferring s ∧
        Underway d contents content s m v := by
  obtain ⟨record, opening, grant, body, noFile, opens, direct, storage, chunked, asks⟩ := d.opens
  obtain rfl : record = answer := Except.ok.inj (body.symm.trans reads)
  simp only [readInitiation, if_neg noFile, opens, Opening.mode, if_pos direct, storage, chunked, if_true]
  refine ⟨_, _, rfl, rfl, holds, Nat.zero_le _, asks, fun _ => rfl, ?_, ?_⟩
  · rw [List.take_zero]
    rfl
  · rintro _ _ ⟨⟩

theorem initiate_meets (id : SessionId) (target : UploadTarget) {file : UploadFile}
    (holds : file.source.Holds contents content) (good : (contract d content).good t.peer) :
    (initiate chunkSize id target file).Meets (schedule.environment d.peer contents)
      (contract d content).clocked (course d contents content).AfterInitiation t := by
  have permits : (contract d content).Permits d.peer (initiationRequest target file) t.peer := by
    refine permits_of_object good ?_ ?_
    · cases target <;> rfl
    · rw [peer_initiationRequest]
      rfl
  rw [initiate]
  apply Schedule.meets_exchange (fun _ => True) permits (peer_initiationRequest _ _ _) trivial trivial
  · intro cause u good _
    exact ⟨good, trivial⟩
  · intro u good _
    obtain ⟨record, -, -, body, -⟩ := d.opens
    obtain ⟨s, m, opened, underway⟩ := readInitiation_eq chunkSize id target holds u.peer body
    simp only [Except.bind, body, opened]
    exact ⟨good, ⟨m, underway⟩, trivial⟩

/-! ### A server and a storage in plain words -/

/-- What the plain storage makes of a signed request. -/
def plainErrand (method url : String) : Option Errand :=
  if method = "PUT" then (numeral? 10 (url.toList.drop 14)).map .part
  else if url = "https://s/k?open" then some .opening
  else if url = "https://s/k?join" then some .assembly
  else none

theorem plainErrand_part (number : Nat) :
    plainErrand "PUT" ("https://s/k?n=" ++ toString number) = some (.part number) := by
  have digits : (toString number).toList = Nat.toDigits 10 number := by
    rw [Nat.toString_eq_repr, Nat.toList_repr]
  have behind : ("https://s/k?n=" ++ toString number).toList.drop 14 = Nat.toDigits 10 number := by
    rw [String.toList_append, digits]
    rfl
  rw [plainErrand, if_pos rfl, behind, numeral?_toDigits, Option.map_some]

/-- A signed request as it is written. -/
def plainRequest (method url : String) : Json := .object [("method", .str method), ("url", .str url)]

def plainOpening : Response :=
  .ofJson (.object [("_id", .str "u1"), ("behavior", .str "s3"), ("s3", .object
    [("chunkLength", .int 4), ("chunked", .bool true),
      ("request", plainRequest "POST" "https://s/k?open")])])

theorem opensParts_plainOpening : plainOpening.OpensParts plainErrand := by
  let record : Record := ⟨[("_id", .str "u1"), ("behavior", .str "s3"), ("s3", .object
    [("chunkLength", .int 4), ("chunked", .bool true),
      ("request", plainRequest "POST" "https://s/k?open")])], by decide +kernel⟩
  have body : (Response.ofJson record.toJson).record = .ok record :=
    Response.record_ofJson (by decide +kernel)
  exact ⟨record, _, _, body, by decide +kernel, rfl, rfl, rfl, rfl, by decide +kernel,
    by decide +kernel⟩

/-- The lengths differ from turn to turn. -/
def plainGrant (turn number : Nat) : Response :=
  .ofJson (.object [("s3", .object [("chunkLength", .int (turn / 2 % 4 : Nat)),
    ("request", plainRequest "PUT" ("https://s/k?n=" ++ toString number))])])

/-- What the grant reads as. -/
def plainPart (turn number : Nat) : StorageGrant :=
  ⟨false, some (turn / 2 % 4), ⟨"PUT", "https://s/k?n=" ++ toString number, .empty⟩⟩

theorem readPart?_plainGrant (turn number : Nat) :
    (plainGrant turn number).read StorageGrant.readPart? = .ok (plainPart turn number) := by
  refine Response.read_ofJson ?_ rfl
  simp only [plainRequest, Json.isNormal, Json.fieldsAreNormal, Json.intFits, Ascending,
    List.pairwise_cons, List.mem_singleton, forall_eq, List.not_mem_nil, false_imp_iff, implies_true,
    List.Pairwise.nil, and_true, Bool.and_true, Bool.and_eq_true, decide_eq_true_eq]
  exact ⟨trivial, by decide, by omega, by decide⟩

theorem grantsPart_plainGrant (turn number : Nat) :
    (plainGrant turn number).GrantsPart plainErrand number := by
  have upper : asciiUpper "PUT" = "PUT" := by decide +kernel
  have asks : (plainPart turn number).request.AsksFor plainErrand (.part number) := by
    show isToken (asciiUpper "PUT") ∧ plainErrand (asciiUpper "PUT") _ = _
    rw [upper]
    exact ⟨by decide +kernel, plainErrand_part number⟩
  exact ⟨_, readPart?_plainGrant turn number, asks⟩

def plainFile : Record := ⟨_, isNormal_plainFile⟩

def plainCompletion : Response :=
  .ofJson (.object [("_id", .str "f1"), ("_modelType", .str "file"),
    ("s3FinalizeRequest", plainRequest "POST" "https://s/k?join")])

theorem finalizes_plainCompletion : plainCompletion.Finalizes plainErrand plainFile := by
  let record : Record := ⟨[("_id", .str "f1"), ("_modelType", .str "file"),
    ("s3FinalizeRequest", plainRequest "POST" "https://s/k?join")], by decide +kernel⟩
  have body : (Response.ofJson record.toJson).record = .ok record :=
    Response.record_ofJson (by decide +kernel)
  exact ⟨record, _, body, rfl, by decide +kernel, by decide +kernel⟩

def plainOpened : Response := (Response.new 200).withBody (Utf8.ofString "<R><UploadId>k1</UploadId></R>")

theorem readStorageId_plainOpened : readStorageId plainOpened = .ok "k1" := by
  decide +kernel

/-- A server and a storage in plain words; the tags look like markup. -/
def plain : DirectStorage where
  errand := plainErrand
  record := plainFile
  opening := plainOpening
  grant := plainGrant
  completion _ := plainCompletion
  opened _ := plainOpened
  tag turn := "<" ++ toString turn ++ "&amp;>"
  stored tag := (Response.new 200).withHeader "ETag" tag
  assembled := .new 200
  refusal := default
  opens := opensParts_plainOpening
  grants := grantsPart_plainGrant
  finalizes _ := finalizes_plainCompletion
  names _ := ⟨"k1", readStorageId_plainOpened⟩
  tags _ := Dictionary.get?_insert_self _ _ _

/-- The answers to the first part and to the manifest are lost, and one read fails. -/
def rough : Schedule where
  exchange
    | 3 | 10 => .replyLost default
    | _ => .carried
  reports _ := []
  reading
    | 1 => some default
    | _ => none

/-- **An upload straight to storage arrives whole.**  Whatever fails on the way, however often the upload is
resumed, and whatever lengths are granted to its parts, there is no object but the file at any time, every
manifest that is sent lists the tags that the storage has and makes the file, and a call that returns a record
has left the object. -/
theorem assembles_file (d : DirectStorage) (schedule : Schedule)
    {contents : String → Option Bytes} {content : Bytes} {file : UploadFile}
    (holds : file.source.Holds contents content) (u : Uploader) (target : UploadTarget)
    (resumes : Nat) :
    let env := schedule.environment d.peer contents
    let upload := u.insist target file resumes
    let start : Clocked Vault := .start .empty
    (∀ t ∈ upload.states env start, t.peer.object = none ∨ t.peer.object = some content) ∧
      (∀ e ∈ upload.encounters env start, d.isManifest e.1 →
        assembly e.1 e.2.peer = some content) ∧
      ∀ record, (upload.run env start).value.1 = .ok record →
        (upload.run env start).peer.peer.object = some content ∧ record = d.record := by
  intro env upload start
  have nothing : (contract d content).good start.peer := .inl rfl
  have meets : upload.Meets env (contract d content).clocked
      ((course d contents content).AfterCall u.chunkSize) start :=
    Course.insist_meets kept (fun id => initiate_meets id target holds nothing) resumes
  obtain ⟨good, admitted, after⟩ := Dialogue.meets_iff.1 meets
  exact ⟨good, admitted, after.arrived⟩

/-- Three bytes in a rough connection: the first part is sent again at another length, the manifest as it
was. -/
theorem assembles_file_rough :
    let upload := (Uploader.new ⟨2, by decide⟩).insist (.folder "p") (.ofBytes "a" [1, 2, 3]) 3
    let env := rough.environment plain.peer fun _ => none
    let result := upload.run env (.start .empty)
    result.value.1 = .ok plain.record ∧ result.peer.peer.object = some [1, 2, 3] := by
  have holds : ByteSource.Holds (fun _ => none) (UploadFile.ofBytes "a" [1, 2, 3]).source [1, 2, 3] := rfl
  obtain ⟨-, -, arrived⟩ := assembles_file plain rough holds (.new ⟨2, by decide⟩) (.folder "p") 3
  refine ⟨?returned, (arrived _ ?returned).1⟩
  decide +kernel

end DirectStorage

end Depot
