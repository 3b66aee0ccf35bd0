import Depot.Peer.WholeStorage
import Depot.Proofs.Dialogue.Fault
import Depot.Proofs.Http.Response
import Depot.Proofs.Upload.Course
import Depot.Proofs.Upload.Source
import Depot.Proofs.Upload.Step

/-!
# Uploads in one request arrive whole

An uploader, an honest server that signs its requests, and an honest storage that takes a file in one of
them, with a connection that fails as a schedule wills.

The invariant is about the ticket that was issued last: a session that is about to send holds it, and
nothing has come with it (`Armed`).  A failure while it is sent leaves nobody knowing whether that is still
so, and therefore the session asks for another ticket before it sends again.  Once the file is stored it
stays stored, so the completion may be repeated as it is.
-/

namespace Depot

namespace SignedRequest.Bears

variable {signed : SignedRequest} {ticket : (method url : String) → Option Nat} {number : Nat}

/-- A signed request is sent, and the storage sees its ticket. -/
theorem sent (h : signed.Bears ticket number) :
    ∃ request, signed.toRequest? = some request ∧ request.isApiRequest = false ∧
      ticket request.method request.target.text = some number := by
  obtain ⟨token, known⟩ := h
  exact ⟨_, if_pos token, rfl, known⟩

end SignedRequest.Bears

namespace WholeStorage

open Dialogue (Contract)
open Route (asksLanded isCompletion isInitiation)

variable {w : WholeStorage} {contents : String → Option Bytes} {content : Bytes}
  {schedule : Schedule} {chunkSize : ChunkSize} {s : Session} {t : Clocked Vault} {v : Vault}

/-! ### The invariant -/

/-- A session of an upload that the server has opened. -/
structure Underway (contents : String → Option Bytes) (content : Bytes) (s : Session) (v : Vault) :
    Prop where
  mode : ∃ signed, s.mode = .single signed
  holds : s.file.source.Holds contents content
  size : v.size = content.length

/-- The session holds the ticket that was issued last, and nothing has come with it. -/
structure Armed (w : WholeStorage) (signed : SignedRequest) (v : Vault) : Prop where
  bears : signed.Bears w.ticket v.issued
  fresh : v.fresh = true

/-- A session that sends is armed, and one that completes has the file stored. -/
def course (w : WholeStorage) (contents : String → Option Bytes) (content : Bytes) :
    Course (Clocked Vault) where
  ready phase s t := Underway contents content s t.peer ∧
    match phase with
    | .authorizing => True
    | .transferring => ∃ signed, s.mode = .single signed ∧ Armed w signed t.peer
    | .completing => t.peer.object = some content
  arrived file t := t.peer.object = some content ∧ file = w.record

/-- A session that failed before the file was stored asks for a ticket again. -/
theorem Underway.resumed (h : Underway contents content s t.peer) {phase : Phase}
    (uncompleting : phase ≠ .completing) : (course w contents content).ready (s.resumeAt phase) s t := by
  obtain ⟨signed, mode⟩ := h.mode
  have phase_eq : s.resumeAt phase = .authorizing := by
    simp only [Session.resumeAt, mode]
    cases phase with
    | authorizing => rfl
    | transferring => rfl
    | completing => exact absurd rfl uncompleting
  rw [phase_eq]
  exact ⟨h, trivial⟩

/-- A session whose file is stored is completed, however often that fails. -/
theorem Underway.resumed_completing (h : Underway contents content s t.peer)
    (stored : t.peer.object = some content) :
    (course w contents content).ready (s.resumeAt .completing) s t := by
  obtain ⟨signed, mode⟩ := h.mode
  have phase_eq : s.resumeAt .completing = .completing := by
    simp only [Session.resumeAt, mode]
  rw [phase_eq]
  exact ⟨h, stored⟩

/-! ### Asking for a signature -/

/-- The request for a new signed request. -/
def ticketRequest (s : Session) : Request := (Request.get "file/offset").withQuery "uploadId" s.uploadId

theorem peer_ticketRequest : w.peer (ticketRequest s) v = (.ok (w.signature (v.issued + 1)), v.issue) := by
  have asks : asksLanded (ticketRequest s) = true := by simp [asksLanded, ticketRequest]
  show w.serve (ticketRequest s) v = _
  rw [serve, asks, if_pos rfl]
  rfl

/-- **A session that has asked is armed.** -/
theorem askSignature_meets (h : ∃ r, s.mode = .single r) (underway : Underway contents content s t.peer) :
    (askSignature s h).Meets (schedule.environment w.peer contents) Contract.any.clocked
      ((course w contents content).AfterStep .authorizing) t := by
  show (exchange (ticketRequest s) >>= _).Meets _ _ _ t
  apply Schedule.meets_exchange (Underway contents content s) (Contract.permits_any _ _ _)
    peer_ticketRequest underway { underway with }
  · intro cause u good waiting
    exact ⟨good, waiting.resumed (by rintro ⟨⟩)⟩
  intro u good issued
  obtain ⟨signed, reads, bears⟩ := w.signs (t.peer.issued + 1)
  have armed : Armed w signed u.peer := by
    rw [issued]
    exact ⟨bears, rfl⟩
  have size : u.peer.size = content.length := by
    rw [issued]
    exact underway.size
  simp only [Except.bind, reads]
  exact ⟨good, { underway with mode := ⟨signed, rfl⟩, size }, signed, rfl, armed⟩

/-! ### Sending the file -/

/-- The body of a request with the newest ticket is taken, unless something has come with it. -/
theorem peer_armed {request : Request} {data : Bytes} (outside : request.isApiRequest = false)
    (known : w.ticket request.method request.target.text = some v.issued) (fresh : v.fresh = true)
    (body : request.body = .bytes data) :
    w.peer request v = (.ok w.stored, v.store v.issued data) := by
  rw [peer, outside, if_neg Bool.false_ne_true, keep, known, body]
  show (if w.takes v v.issued = true then _ else _) = _
  rw [if_pos (w.takes_issued v fresh)]

/-- **An armed session has its file stored**, whole. -/
theorem sendWhole_meets {signed : SignedRequest} (h : s.mode = .single signed)
    (underway : Underway contents content s t.peer) (armed : Armed w signed t.peer) :
    (sendWhole s signed h).Meets (schedule.environment w.peer contents) Contract.any.clocked
      ((course w contents content).AfterStep .transferring) t := by
  let sending := { s with startByte := 0, chunkLength := s.size }
  show (Dialogue.fetch s.file.source 0 s.size >>= _).Meets _ _ _ t
  apply Schedule.meets_read trivial underway.holds.readRange_whole
  · intro cause u same
    rw [← same] at underway
    have unsent : Underway contents content sending u.peer := { underway with }
    exact ⟨trivial, unsent.resumed (by rintro ⟨⟩)⟩
  intro u same
  rw [← same] at underway armed
  obtain ⟨request, sends, outside, known⟩ := armed.bears.sent
  have acted : w.peer (request.withBody (.bytes content)).withProgress u.peer =
      (.ok w.stored, u.peer.store u.peer.issued content) := peer_armed outside known armed.fresh rfl
  simp only [sends]
  -- the ticket may be used up or not, and the storage may have the file or not
  apply Schedule.meets_deliver (Underway contents content sending) (Contract.permits_any _ _ _) acted
    { underway with } { underway with }
  · intro cause v good waiting
    exact ⟨good, waiting.resumed (by rintro ⟨⟩)⟩
  intro v good stored
  have size : v.peer.size = content.length := by
    rw [stored]
    exact underway.size
  rw [Dialogue.meets_bind, Dialogue.meets_tell]
  refine ⟨good, good, { underway with size }, ?_⟩
  show v.peer.object = some content
  rw [stored]
  rfl

/-! ### Completing -/

/-- When the file is stored at its announced length, the server gives its record. -/
theorem peer_completionRequest (size : v.size = content.length) (stored : v.object = some content) :
    w.peer (completionRequest s) v = (.ok w.completion, v) := by
  have other : asksLanded (completionRequest s) = false := by simp [asksLanded, completionRequest]
  have completes : isCompletion (completionRequest s) = true := by simp [isCompletion, completionRequest]
  have complete : v.object.map List.length = some v.size := by rw [stored, size, Option.map_some]
  show w.serve (completionRequest s) v = _
  rw [serve, other, if_neg Bool.false_ne_true, completes, if_pos rfl, if_pos complete]

/-- **The file stays stored**, however often the server is told so. -/
theorem completeWhole_meets {bound : Nat} (underway : Underway contents content s t.peer)
    (stored : t.peer.object = some content) :
    (completeWhole s : Dialogue UploadEvent (StepResult bound)).Meets (schedule.environment w.peer contents)
      Contract.any.clocked ((course w contents content).AfterStep .completing) t := by
  apply Schedule.meets_exchange
    (fun v => Underway contents content s v ∧ v.object = some content) (Contract.permits_any _ _ _)
    (peer_completionRequest underway.size stored) ⟨underway, stored⟩ ⟨underway, stored⟩
  · intro cause u good still
    obtain ⟨waiting, kept⟩ := still
    exact ⟨good, waiting.resumed_completing kept⟩
  intro u good same
  simp only [Except.bind, w.completes]
  refine ⟨good, ?_, rfl⟩
  rw [same]
  exact stored

/-! ### Whole uploads -/

theorem kept : (course w contents content).KeptBy (schedule.environment w.peer contents)
    Contract.any.clocked chunkSize := by
  rintro phase s t good ⟨underway, place⟩
  obtain ⟨signed, mode⟩ := underway.mode
  cases phase with
  | authorizing =>
    rw [step_authorizing_single mode]
    exact askSignature_meets ⟨signed, mode⟩ underway
  | transferring =>
    obtain ⟨held, holding, armed⟩ := place
    rw [step_transferring_single holding]
    exact sendWhole_meets holding underway armed
  | completing =>
    rw [step_completing_single mode]
    exact completeWhole_meets underway place

/-- The size of the file is announced, and the first ticket is issued, with the upload. -/
theorem peer_initiationRequest (target : UploadTarget) {file : UploadFile} (fits : file.size < limit64) :
    w.peer (initiationRequest target file) v = (.ok (w.opening (v.issued + 1)),
      { v.issue with size := file.size, object := none }) := by
  have inside : (initiationRequest target file).isApiRequest = true := by cases target <;> rfl
  have noOffset : asksLanded (initiationRequest target file) = false := by
    cases target <;> simp [asksLanded, initiationRequest]
  have noCompletion : isCompletion (initiationRequest target file) = false := by
    cases target <;> simp [isCompletion, initiationRequest]
  have opens : isInitiation (initiationRequest target file) = true := by
    cases target <;> simp [isInitiation, initiationRequest]
  rw [peer, inside, if_pos rfl, serve, noOffset, if_neg Bool.false_ne_true, noCompletion,
    if_neg Bool.false_ne_true, opens, if_pos rfl, queryNatural_initiationRequest target fits]
  rfl

/-- What the server answers opens a session that is armed. -/
theorem readInitiation_eq (chunkSize : ChunkSize) (id : SessionId) (target : UploadTarget)
    {file : UploadFile} (holds : file.source.Holds contents content) {answer : Record}
    (reads : (w.opening v.issued).record = .ok answer) (size : v.size = content.length)
    (fresh : v.fresh = true) : ∃ s signed,
      readInitiation chunkSize id target file answer = .opened .transferring s ∧
        Underway contents content s v ∧ s.mode = .single signed ∧ Armed w signed v := by
  obtain ⟨record, opening, grant, body, noFile, opens, direct, storage, whole, bears⟩ := w.opens v.issued
  obtain rfl : record = answer := Except.ok.inj (body.symm.trans reads)
  simp only [readInitiation, if_neg noFile, opens, Opening.mode, if_pos direct, storage, whole]
  exact ⟨_, grant.request, rfl, ⟨⟨grant.request, rfl⟩, holds, size⟩, rfl, bears, fresh⟩

theorem initiate_meets (id : SessionId) (target : UploadTarget) {file : UploadFile}
    (holds : file.source.Holds contents content) (fits : content.length < limit64) :
    (initiate chunkSize id target file).Meets (schedule.environment w.peer contents)
      Contract.any.clocked (course w contents content).AfterInitiation t := by
  have size_eq : file.size = content.length := holds.size_eq
  have sizeFits : file.size < limit64 := by omega
  rw [initiate]
  apply Schedule.meets_exchange (fun _ => True) (Contract.permits_any _ _ _)
    (peer_initiationRequest target sizeFits) trivial trivial
  · intro cause u good _
    exact ⟨good, trivial⟩
  intro u good begun
  have issued : u.peer.issued = t.peer.issued + 1 := congrArg Vault.issued begun
  have fresh : u.peer.fresh = true := congrArg Vault.fresh begun
  have size : u.peer.size = content.length := (congrArg Vault.size begun).trans size_eq
  obtain ⟨record, -, -, body, -⟩ := w.opens u.peer.issued
  obtain ⟨s, signed, opened, underway, mode, armed⟩ :=
    readInitiation_eq chunkSize id target holds body size fresh
  rw [issued] at body
  simp only [Except.bind, body, opened]
  exact ⟨good, underway, signed, mode, armed⟩

/-! ### A server and a storage in plain words -/

/-- The ticket is the number at the end of the address. -/
def plainTicket (_ url : String) : Option Nat := numeral? 10 (url.toList.drop 14)

def plainAddress (number : Nat) : String := "https://s/k?t=" ++ toString number

theorem plainTicket_plainAddress (method : String) (number : Nat) :
    plainTicket method (plainAddress number) = some number := by
  have digits : (toString number).toList = Nat.toDigits 10 number := by
    rw [Nat.toString_eq_repr, Nat.toList_repr]
  have behind : (plainAddress number).toList.drop 14 = Nat.toDigits 10 number := by
    rw [plainAddress, String.toList_append, digits]
    rfl
  rw [plainTicket, behind, numeral?_toDigits]

/-- A signed request as it is written. -/
def plainRequest (number : Nat) : Json :=
  .object [("method", .str "PUT"), ("url", .str (plainAddress number))]

theorem isNormal_plainRequest (number : Nat) : (plainRequest number).isNormal = true := by
  simp only [plainRequest, Json.isNormal, Json.fieldsAreNormal, Ascending, List.pairwise_cons,
    List.mem_singleton, forall_eq, List.not_mem_nil, false_imp_iff, implies_true, List.Pairwise.nil, and_true,
    Bool.and_true, decide_eq_true_eq]
  decide

theorem bears_plainRequest (number : Nat) :
    SignedRequest.Bears ⟨"PUT", plainAddress number, .empty⟩ plainTicket number := by
  have token : isToken (asciiUpper "PUT") = true := by decide +kernel
  exact ⟨token, plainTicket_plainAddress _ number⟩

theorem signs_plainRequest (number : Nat) :
    (Response.ofJson (plainRequest number)).Signs plainTicket number :=
  ⟨⟨"PUT", plainAddress number, .empty⟩, Response.read_ofJson (isNormal_plainRequest number) rfl,
    bears_plainRequest number⟩

def plainOpening (number : Nat) : Record where
  fields := [("_id", .str "u1"), ("behavior", .str "s3"),
    ("s3", .object [("chunked", .bool false), ("request", plainRequest number)])]
  normal := by
    have request := isNormal_plainRequest number
    simp only [Json.isNormal, Json.fieldsAreNormal, request, Ascending, List.pairwise_cons, List.mem_cons,
      List.not_mem_nil, or_false, forall_eq_or_imp, forall_eq, false_imp_iff, implies_true, List.Pairwise.nil,
      and_true, Bool.and_true, Bool.and_eq_true, decide_eq_true_eq]
    decide

theorem opensWhole_plainOpening (number : Nat) :
    (Response.ofJson (plainOpening number).toJson).OpensWhole plainTicket number := by
  have deep : (plainOpening number).toJson.depth ≤ Json.Document.depthLimit := by
    have three : (plainOpening number).toJson.depth = 3 := rfl
    rw [three]
    decide
  have noFile : (plainOpening number).modelType? ≠ some "file" := by
    have untyped : (plainOpening number).modelType? = none := rfl
    rw [untyped]
    exact (Option.some_ne_none _).symm
  exact ⟨plainOpening number, _, _, Response.record_ofJson deep, noFile, rfl, rfl, rfl, rfl,
    bears_plainRequest number⟩

def plainFile : Record := ⟨_, isNormal_plainFile⟩

theorem record_plainFile : (Response.ofJson plainFile.toJson).record = .ok plainFile :=
  Response.record_ofJson (by decide +kernel)

/-- A server and a storage in plain words; every ticket is good for one body. -/
def plain : WholeStorage where
  ticket := plainTicket
  record := plainFile
  opening number := .ofJson (plainOpening number).toJson
  signature number := .ofJson (plainRequest number)
  completion := .ofJson plainFile.toJson
  stored := .new 200
  refusal := default
  takes v number := v.fresh && number == v.issued
  opens := opensWhole_plainOpening
  signs := signs_plainRequest
  completes := record_plainFile
  takes_issued v fresh := by rw [fresh, Bool.true_and, beq_self_eq_true]

end WholeStorage

end Depot
