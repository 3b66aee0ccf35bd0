import Depot.Peer.ChunkServer
import Depot.Proofs.Dialogue.Fault
import Depot.Proofs.Dictionary
import Depot.Proofs.Http.Request
import Depot.Proofs.Http.Response
import Depot.Proofs.Text.Number
import Depot.Proofs.Upload.Course
import Depot.Proofs.Upload.Source
import Depot.Proofs.Upload.Step

/-!
# Uploads through a server arrive whole

An uploader and an honest server that takes a file in chunks, with a connection between them that fails as a
schedule wills: before the server acts, or after it, when only the answer is lost, also that to the last
chunk.  Reads of the file may fail as well.

The invariant is that the bytes on the server are a prefix of the file, and that a session that is about to
send knows how long that prefix is (`Underway`, `course`).  A lost answer breaks only the second half, and
no session goes on before it has asked: whatever failed, it is resumed at the authorization.
-/

namespace Depot.ChunkServer

open Dialogue (Contract)
open Listing (queryNatural)
open Route (isChunk asksLanded isInitiation)

variable {server : ChunkServer} {contents : String → Option Bytes} {content : Bytes}
  {schedule : Schedule} {chunkSize : ChunkSize} {s : Session} {t : Clocked Store}

/-- What may be seen: the server has a prefix of the file, and every chunk that is sent to it starts where
that prefix ends. -/
def contract (content : Bytes) : Contract Store where
  good store := store.bytes <+: content
  admits request store := isChunk request → queryNatural request "offset" = store.bytes.length

/-- A session of an upload that the server has opened. -/
structure Underway (server : ChunkServer) (contents : String → Option Bytes) (content : Bytes)
    (s : Session) (store : Store) : Prop where
  mode : s.mode = .server
  uploadId : s.uploadId = server.uploadId
  holds : s.file.source.Holds contents content
  size : store.size = content.length
  landed : store.bytes <+: content

/-- Only a session that sends has to know how many bytes have landed.  There is nothing to complete. -/
def course (server : ChunkServer) (contents : String → Option Bytes) (content : Bytes) :
    Course (Clocked Store) where
  ready phase s t := Underway server contents content s t.peer ∧
    match phase with
    | .authorizing => True
    | .transferring => s.startByte = t.peer.bytes.length
    | .completing => False
  arrived file t := t.peer.bytes = content ∧ file = server.record

namespace Underway

variable {store : Store}

theorem size_eq (h : Underway server contents content s store) : s.size = content.length :=
  h.holds.size_eq

theorem resumed (h : Underway server contents content s t.peer) (phase : Phase) :
    (course server contents content).ready (s.resumeAt phase) s t := by
  have phase_eq : s.resumeAt phase = .authorizing := by
    simp only [Session.resumeAt, h.mode]
  rw [phase_eq]
  exact ⟨h, trivial⟩

end Underway

/-! ### Asking for the offset -/

theorem peer_offsetRequest (store : Store) :
    server.peer s.offsetRequest store = (.ok (server.landed store.bytes.length), store) := by
  simp [peer, isChunk, asksLanded, Session.offsetRequest]

theorem permits_offsetRequest {store : Store} (landed : store.bytes <+: content) :
    (contract content).Permits server.peer s.offsetRequest store where
  before := landed
  admits := by simp [contract, isChunk, Session.offsetRequest]
  after := by rwa [peer_offsetRequest]

/-- **What is asked is told**: a session that goes on from the authorization knows how many bytes have
landed. -/
theorem askOffset_meets (h : s.mode = .server) (fits : content.length < limit64)
    (underway : Underway server contents content s t.peer) :
    (askOffset s h).Meets (schedule.environment server.peer contents) (contract content).clocked
      ((course server contents content).AfterStep .authorizing) t := by
  have shorter : t.peer.bytes.length ≤ content.length := underway.landed.length_le
  show (exchange s.offsetRequest >>= _).Meets _ _ _ t
  apply Schedule.meets_exchange (Underway server contents content s)
    (permits_offsetRequest underway.landed) (peer_offsetRequest _) underway underway
  · intro cause u good known
    exact ⟨good, known.resumed .authorizing⟩
  · intro u good same
    have counted : (server.landed t.peer.bytes.length).read readOffset? = .ok u.peer.bytes.length := by
      rw [same]
      exact server.counts _ (Nat.lt_of_le_of_lt shorter fits)
    have inside : ¬ s.size < u.peer.bytes.length := by
      rw [underway.size_eq, same]
      exact Nat.not_lt.mpr shorter
    simp only [Except.bind, counted, if_neg inside]
    rw [← same] at underway
    exact ⟨good, { underway with }, rfl⟩

/-! ### Sending a chunk -/

/-- The request that brings some bytes from the session's first byte on. -/
def chunkRequest (s : Session) (data : Bytes) : Request :=
  (((Request.post "file/chunk").withQueryPairs
    [("offset", toString s.startByte), ("uploadId", s.uploadId)]).withBody (.bytes data)).withProgress

theorem offset_chunkRequest {data : Bytes} (fits : s.startByte < limit64) :
    queryNatural (chunkRequest s data) "offset" = s.startByte := by
  refine Listing.queryNatural_eq ?_ fits
  simp [chunkRequest, Request.queryValue?]

/-- A chunk that starts where the bytes end that are there is taken. -/
theorem peer_chunkRequest {data : Bytes} {store : Store} (fits : s.startByte < limit64)
    (uploadId : s.uploadId = server.uploadId) (place : s.startByte = store.bytes.length) :
    server.peer (chunkRequest s data) store =
      (.ok (if (store.bytes ++ data).length = store.size then server.file else server.more),
        { store with bytes := store.bytes ++ data }) := by
  have isChunk_eq : isChunk (chunkRequest s data) = true := by simp [isChunk, chunkRequest]
  have uploadId_eq : (chunkRequest s data).queryValue? "uploadId" = some server.uploadId := by
    simp [chunkRequest, Request.queryValue?, lookup_cons, uploadId]
  have fits_eq : server.fits (chunkRequest s data) store = true := by
    simp only [ChunkServer.fits, uploadId_eq, offset_chunkRequest fits, place, and_self,
      decide_true]
  have body_eq : (chunkRequest s data).body = .bytes data := rfl
  simp only [peer, isChunk_eq, take, body_eq, fits_eq, if_true]

section NextChunk

variable {store : Store} {stop : Nat} (underway : Underway server contents content s store)
  (place : s.startByte = store.bytes.length) (order : s.startByte ≤ stop)

include underway place order

/-- The next slice of the file is a prefix of it together with what has landed before. -/
theorem landed_nextChunk :
    store.bytes ++ ByteSource.slice content s.startByte stop = content.take stop := by
  rw [List.prefix_iff_eq_take.1 underway.landed, ← place]
  exact ByteSource.take_append_slice order

variable (fits : content.length < limit64) (inside : stop ≤ content.length)

include fits inside

theorem peer_nextChunk :
    server.peer (chunkRequest s (ByteSource.slice content s.startByte stop)) store =
      (.ok (if stop = content.length then server.file else server.more),
        ⟨content.length, content.take stop⟩) := by
  have startFits : s.startByte < limit64 := by omega
  rw [peer_chunkRequest startFits underway.uploadId place, landed_nextChunk underway place order,
    underway.size, List.length_take, Nat.min_eq_left inside]

theorem permits_nextChunk :
    (contract content).Permits server.peer
      (chunkRequest s (ByteSource.slice content s.startByte stop)) store where
  before := underway.landed
  admits := by
    intro _
    rw [offset_chunkRequest (by omega), place]
  after := by
    rw [peer_nextChunk underway place order fits inside]
    exact List.take_prefix _ _

end NextChunk

/-- **A chunk is the next slice of the file**, so what has landed is a prefix of it again.  When the last
slice is acknowledged, all of the file is there. -/
theorem sendChunk_meets (h : s.mode = .server) (fits : content.length < limit64)
    (underway : Underway server contents content s t.peer)
    (place : s.startByte = t.peer.bytes.length) :
    (sendChunk chunkSize s h).Meets (schedule.environment server.peer contents)
      (contract content).clocked ((course server contents content).AfterStep .transferring) t := by
  have size_eq : s.size = content.length := underway.size_eq
  have shorter : t.peer.bytes.length ≤ content.length := underway.landed.length_le
  let stop := min (s.startByte + chunkSize.bytes) s.size
  have order : s.startByte ≤ stop := by simp only [stop]; omega
  have inside : stop ≤ content.length := by simp only [stop]; omega
  let data := ByteSource.slice content s.startByte stop
  let sending := { s with chunkLength := stop - s.startByte }
  show (Dialogue.fetch s.file.source s.startByte stop >>= _).Meets _ _ _ t
  apply Schedule.meets_read underway.landed (underway.holds.readRange_eq order inside)
  · intro cause u same
    rw [← same] at underway
    have unsent : Underway server contents content sending u.peer := { underway with }
    exact ⟨underway.landed, unsent.resumed .transferring⟩
  intro u same
  -- the slice has been read, and the server is as it was
  rw [← same] at underway place
  have acted := peer_nextChunk underway place order fits inside
  have permits := permits_nextChunk underway place order fits inside
  show (deliver s s.startByte data _ _ >>= _).Meets _ _ _ u
  -- whether the chunk has landed or not, what has landed is a prefix, as the contract has it
  apply Schedule.meets_deliver (fun store => store.size = content.length) permits acted underway.size rfl
  · intro cause v good size
    have sent : Underway server contents content sending v.peer :=
      { underway with size := size, landed := good }
    exact ⟨good, sent.resumed .transferring⟩
  intro v good arrived
  rw [Dialogue.meets_bind, Dialogue.meets_tell]
  refine ⟨good, ?_⟩
  split
  · -- the last chunk: the answer is the record
    next last =>
    have whole : stop = content.length := by omega
    rw [if_pos whole, server.files]
    refine ⟨good, ?_, rfl⟩
    rw [arrived, whole]
    exact List.take_length
  · next more =>
    have sent : Underway server contents content sending v.peer :=
      { underway with size := congrArg Store.size arrived, landed := good }
    refine ⟨good, { sent with }, ?_⟩
    show stop = v.peer.bytes.length
    rw [arrived]
    show stop = (content.take stop).length
    rw [List.length_take, Nat.min_eq_left inside]

/-! ### Whole uploads -/

theorem kept (fits : content.length < limit64) :
    (course server contents content).KeptBy (schedule.environment server.peer contents)
      (contract content).clocked chunkSize := by
  rintro phase s t - ⟨underway, place⟩
  cases phase with
  | authorizing =>
    rw [step_authorizing_server underway.mode]
    exact askOffset_meets underway.mode fits underway
  | transferring =>
    rw [step_transferring_server underway.mode]
    exact sendChunk_meets underway.mode fits underway place
  | completing => exact place.elim

/-- The size of the file is announced with the upload. -/
theorem peer_initiationRequest {target : UploadTarget} {file : UploadFile} (fits : file.size < limit64)
    (store : Store) :
    server.peer (initiationRequest target file) store = (.ok server.opening, ⟨file.size, []⟩) := by
  rw [peer, queryNatural_initiationRequest target fits]
  cases target <;> simp [initiationRequest, isChunk, asksLanded, isInitiation]

theorem permits_initiationRequest {target : UploadTarget} {file : UploadFile}
    (fits : file.size < limit64) {store : Store} (landed : store.bytes <+: content) :
    (contract content).Permits server.peer (initiationRequest target file) store where
  before := landed
  admits := by cases target <;> simp [contract, initiationRequest, isChunk]
  after := by
    rw [peer_initiationRequest fits]
    exact List.nil_prefix

/-- What the server answers opens a session that has nothing on the server yet. -/
theorem readInitiation_eq {id : SessionId} {target : UploadTarget} {file : UploadFile}
    {record : Record} {opening : Opening} (noFile : record.modelType? ≠ some "file")
    (reads : Opening.read? (.ofValue record.toJson) = some opening)
    (chunked : opening.behavior ≠ some "s3") :
    readInitiation chunkSize id target file record = .opened .transferring
      { id, file, target, uploadId := opening.id, startByte := 0, chunkLength := 0
        behavior := opening.behavior, mode := .server } := by
  simp only [readInitiation, if_neg noFile, reads, Opening.mode, if_neg chunked]

theorem initiate_meets (id : SessionId) (target : UploadTarget) {file : UploadFile}
    (holds : file.source.Holds contents content) (fits : content.length < limit64)
    (landed : t.peer.bytes <+: content) :
    (initiate chunkSize id target file).Meets (schedule.environment server.peer contents)
      (contract content).clocked (course server contents content).AfterInitiation t := by
  have size_eq : file.size = content.length := holds.size_eq
  have sizeFits : file.size < limit64 := by omega
  obtain ⟨record, opening, body, noFile, reads, sameId, chunked⟩ := server.opens
  rw [initiate]
  apply Schedule.meets_exchange (fun _ => True) (permits_initiationRequest sizeFits landed)
    (peer_initiationRequest sizeFits _) trivial trivial
  · intro cause u good _
    exact ⟨good, trivial⟩
  · intro u good opened
    simp only [Except.bind, body, readInitiation_eq noFile reads chunked]
    refine ⟨good, ⟨rfl, sameId, holds, ?_, good⟩, ?_⟩
    · rw [opened]
      exact size_eq
    · rw [opened]
      rfl

/-! ### A server in plain words -/

def plainOpening : Response := .ofJson (.object [("_id", .str "u1")])

theorem opensChunked_plainOpening : plainOpening.OpensChunked "u1" := by
  let record : Record := ⟨[("_id", .str "u1")], by decide +kernel⟩
  have body : (Response.ofJson record.toJson).record = .ok record :=
    Response.record_ofJson (by decide +kernel)
  exact ⟨record, _, body, by decide +kernel, rfl, rfl, by decide +kernel⟩

def plainLanded (n : Nat) : Response := .ofJson (.object [("offset", .int n)])

theorem readOffset?_plainLanded (n : Nat) (fits : n < limit64) :
    (plainLanded n).read readOffset? = .ok n := by
  refine Response.read_ofJson ?_ rfl
  simp only [Json.isNormal, Json.fieldsAreNormal, Json.intFits, Ascending, List.pairwise_singleton,
    decide_true, Bool.and_true, Bool.true_and, decide_eq_true_eq]
  rw [limit64] at fits
  omega

def plainFile : Record := ⟨_, isNormal_plainFile⟩

theorem record_plainFile : (Response.ofJson plainFile.toJson).record = .ok plainFile :=
  Response.record_ofJson (by decide +kernel)

/-- An answer with one number or one name in it, and a record in the end. -/
def plain : ChunkServer where
  uploadId := "u1"
  opening := plainOpening
  landed := plainLanded
  more := .ofJson (.object [])
  file := .ofJson plainFile.toJson
  record := plainFile
  refusal := default
  opens := opensChunked_plainOpening
  counts := readOffset?_plainLanded
  files := record_plainFile

/-- The answers to the first chunk and to the last one are lost, and so is a chunk; one read fails. -/
def rough : Schedule where
  exchange
    | 1 | 7 => .replyLost default
    | 4 => .requestLost default
    | _ => .carried
  reports _ := []
  reading
    | 1 => some default
    | _ => none

/-- **An upload through a server arrives whole.**  Whatever fails on the way, and however often the upload
is resumed, the bytes on the server are a prefix of the file at any time, no chunk is ever sent for another
place than the end of these bytes, and a call that returns a record has left exactly the file. -/
theorem arrives_whole (server : ChunkServer) (schedule : Schedule)
    {contents : String → Option Bytes} {content : Bytes} {file : UploadFile}
    (holds : file.source.Holds contents content) (fits : content.length < limit64)
    (u : Uploader) (target : UploadTarget) (resumes : Nat) :
    let env := schedule.environment server.peer contents
    let upload := u.insist target file resumes
    let start : Clocked Store := .start .empty
    (∀ t ∈ upload.states env start, t.peer.bytes <+: content) ∧
      (∀ e ∈ upload.encounters env start, isChunk e.1 →
        queryNatural e.1 "offset" = e.2.peer.bytes.length) ∧
      ∀ record, (upload.run env start).value.1 = .ok record →
        (upload.run env start).peer.peer.bytes = content ∧ record = server.record := by
  intro env upload start
  have nothing : start.peer.bytes <+: content := List.nil_prefix
  have meets : upload.Meets env (contract content).clocked
      ((course server contents content).AfterCall u.chunkSize) start :=
    Course.insist_meets (kept fits) (fun id => initiate_meets id target holds fits nothing) resumes
  obtain ⟨good, admitted, after⟩ := Dialogue.meets_iff.1 meets
  exact ⟨good, admitted, after.arrived⟩

/-- Five bytes in chunks of two, in a rough connection: the fourth resumption finds all of them there. -/
theorem arrives_whole_rough :
    let upload := (Uploader.new ⟨2, by decide⟩).insist (.folder "p") (.ofBytes "a" [1, 2, 3, 4, 5]) 4
    let env := rough.environment plain.peer fun _ => none
    let result := upload.run env (.start .empty)
    (∀ t ∈ upload.states env (.start .empty), t.peer.bytes <+: [1, 2, 3, 4, 5]) ∧
      result.value.1 = .ok plain.record ∧ result.peer.peer.bytes = [1, 2, 3, 4, 5] := by
  have holds : ByteSource.Holds (fun _ => none) (UploadFile.ofBytes "a" [1, 2, 3, 4, 5]).source
      [1, 2, 3, 4, 5] := rfl
  obtain ⟨prefixes, -, arrived⟩ :=
    arrives_whole plain rough holds (by decide) (.new ⟨2, by decide⟩) (.folder "p") 4
  refine ⟨prefixes, ?returned, (arrived _ ?returned).1⟩
  decide +kernel

end Depot.ChunkServer
