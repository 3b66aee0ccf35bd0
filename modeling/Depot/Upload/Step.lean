import Depot.Dialogue
import Depot.Upload.Error
import Depot.Upload.Initiation
import Depot.Upload.Manifest
import Depot.Upload.Session
import Depot.Text.Blank
import Depot.Text.Number

/-!
# The steps of an upload

A step is at most one exchange with each peer.  It goes on to another phase, finishes the upload, or fails
with the session as it then is (`StepResult`).  Whatever the peers answer,

* a step that goes on leaves fewer steps to take, which is part of its result;
* a step that fails keeps all that had been achieved; only the length of the last chunk may differ, and a
  completion that got hold of the request for the manifest keeps that.

`initiate` opens an upload; nothing but a complete and fitting answer makes a session.  `step` does the next
thing for a session, by its mode and phase.
-/

namespace Depot

open Dialogue (ask fetch tell tellAll)

/-- Bytes of a chunk that have been sent, from a report on the whole body.  What the body has beyond the
chunk counts as sent first, so it never counts as bytes of the chunk.  A report may say any number of 64 bits,
and the sum wraps around. -/
def payloadProgress (chunkLength bodyLoaded bodyTotal : Nat) : Nat :=
  min ((chunkLength + bodyLoaded) % limit64 - bodyTotal) chunkLength

/-- What a step comes to, where the session had `bound` steps left. -/
inductive StepResult (bound : Nat) where
  /-- There is more to do. -/
  | next (phase : Phase) (session : Session) (fewer : session.stepsLeft phase < bound)
  /-- The file is there. -/
  | finished (session : Session) (file : Record)
  /-- The step failed; the session is kept. -/
  | failed (cause : StepError) (session : Session)

/-- A step of a session in some phase. -/
abbrev Step (s : Session) (phase : Phase) := Dialogue UploadEvent (StepResult (s.stepsLeft phase))

/-! ### Exchanges -/

/-- Send a request whose body nobody follows. -/
def exchange (request : Request) : Dialogue UploadEvent (Except HttpError Response) := do
  return (← ask request).outcome

/-- Send some bytes of the file, and tell how far they have come. -/
def deliver (s : Session) (start : Nat) (data : Bytes) (length : Nat) (request : Request) :
    Dialogue UploadEvent (Except HttpError Response) := do
  let reply ← ask (request.withBody (.bytes data)).withProgress
  tellAll <| reply.progress.map fun (loaded, total) =>
    .progress s.id start (payloadProgress length loaded total) s.size
  return reply.outcome

/-- The request that asks how an upload goes on. -/
def Session.offsetRequest (s : Session) : Request :=
  (Request.get "file/offset").withQuery "uploadId" s.uploadId

/-- The request that asks to finish an upload. -/
def completionRequest (s : Session) : Request :=
  (Request.post "file/completion").withQuery "uploadId" s.uploadId

/-! ### Opening an upload -/

/-- What an initiation comes to. -/
inductive Initiated where
  /-- There was nothing to send: the file is there. -/
  | created (file : Record)
  /-- The upload is open. -/
  | opened (phase : Phase) (session : Session)
  | failed (cause : StepError)

/-- The request that opens an upload. -/
def initiationRequest (target : UploadTarget) (file : UploadFile) : Request :=
  match target with
  | .parent parentType parentId =>
    (Request.post "file").withQueryPairs
      [("parentType", parentType), ("parentId", parentId), ("name", file.name),
        ("size", toString file.size), ("mimeType", file.mimeType)]
  | .contents fileId =>
    (Request.put s!"file/{fileId}/contents").withQuery "size" (toString file.size)

/-- How the bytes of an open upload travel. -/
def Opening.mode (o : Opening) (chunkSize : ChunkSize) : Except Misfit TransferMode :=
  if o.behavior = some "s3" then
    match o.storage with
    | none => .error .missingStorage
    | some grant =>
      if grant.chunked then
        .ok <| .multipart {
          initiate := grant.request
          partSize :=
            match grant.chunkLength with
            | some n => if h : 0 < n then ⟨n, h⟩ else chunkSize
            | none => chunkSize
          storageId := none
          tags := []
          finalize := none }
      else .ok (.single grant.request)
  else .ok .server

/-- What the answer to an initiation comes to. -/
def readInitiation (chunkSize : ChunkSize) (id : SessionId) (target : UploadTarget)
    (file : UploadFile) (answer : Record) : Initiated :=
  if answer.modelType? = some "file" then .created answer
  else
    match Opening.read? (.ofValue answer.toJson) with
    | none => .failed (.misfit (.badUpload "not the expected document"))
    | some opening =>
      match opening.mode chunkSize with
      | .error cause => .failed (.misfit cause)
      | .ok mode =>
        .opened .transferring {
          id, file, target, mode
          uploadId := opening.id
          startByte := 0
          chunkLength := 0
          behavior := opening.behavior }

/-- Open an upload. -/
def initiate (chunkSize : ChunkSize) (id : SessionId) (target : UploadTarget) (file : UploadFile) :
    Dialogue UploadEvent Initiated := do
  match (← exchange (initiationRequest target file)).bind Response.record with
  | .error cause => return .failed (.server cause)
  | .ok answer => return readInitiation chunkSize id target file answer

/-! ### Through the server -/

/-- Ask how many bytes have landed. -/
def askOffset (s : Session) (h : s.mode = .server) : Step s .authorizing := do
  match (← exchange s.offsetRequest).bind (Response.read readOffset?) with
  | .error cause => return .failed (.server cause) s
  | .ok offset =>
    if s.size < offset then return .failed (.misfit (.offsetPastEnd offset)) s
    else
      return .next .transferring { s with startByte := offset } (by
        simp only [Session.stepsLeft, Session.size, h]; omega)

/-- Send the next chunk. -/
def sendChunk (chunkSize : ChunkSize) (s : Session) (h : s.mode = .server) :
    Step s .transferring := do
  let stop := min (s.startByte + chunkSize.bytes) s.size
  let length := stop - s.startByte
  let sending := { s with chunkLength := length }
  match ← fetch s.file.source s.startByte stop with
  | .error cause => return .failed (.file cause) sending
  | .ok data =>
    let request := (Request.post "file/chunk").withQueryPairs
      [("offset", toString s.startByte), ("uploadId", s.uploadId)]
    match ← deliver s s.startByte data length request with
    | .error cause => return .failed (.server cause) sending
    | .ok answer =>
      tell (.chunkSent s.id length stop)
      if last : s.size ≤ stop then
        match answer.record with
        | .error cause => return .failed (.server cause) sending
        | .ok file => return .finished sending file
      else
        return .next .transferring { sending with startByte := stop } (by
          have short : s.startByte + chunkSize.bytes < s.file.size := by
            have : ¬ s.file.size ≤ min (s.startByte + chunkSize.bytes) s.file.size := last
            omega
          have := chunkSize.positive
          simp only [Session.stepsLeft, Session.size, sending, stop, h]
          omega)

/-! ### Straight to storage, in one request -/

/-- Ask for a fresh signature. -/
def askSignature (s : Session) (h : ∃ r, s.mode = .single r) : Step s .authorizing := do
  match (← exchange s.offsetRequest).bind (Response.read SignedRequest.read?) with
  | .error cause => return .failed (.server cause) s
  | .ok signed =>
    return .next .transferring { s with mode := .single signed, startByte := 0 } (by
      obtain ⟨r, h⟩ := h
      simp [Session.stepsLeft, h])

/-- Send the whole file. -/
def sendWhole (s : Session) (signed : SignedRequest) (h : s.mode = .single signed) :
    Step s .transferring := do
  let sending := { s with startByte := 0, chunkLength := s.size }
  match ← fetch s.file.source 0 s.size with
  | .error cause => return .failed (.file cause) sending
  | .ok data =>
    match signed.toRequest? with
    | none => return .failed (.misfit (.unsupportedMethod signed.method)) sending
    | some request =>
      match ← deliver s 0 data s.size request with
      | .error cause => return .failed (.storage cause) sending
      | .ok _ =>
        tell (.chunkSent s.id s.size s.size)
        return .next .completing { sending with startByte := s.size } (by
          simp [Session.stepsLeft, sending, h])

/-- Tell the server that the file is stored. -/
def completeWhole {bound : Nat} (s : Session) : Dialogue UploadEvent (StepResult bound) := do
  match (← exchange (completionRequest s)).bind Response.record with
  | .error cause => return .failed (.server cause) s
  | .ok file => return .finished s file

/-! ### Straight to storage, in parts -/

/-- Ask how the upload goes on.  Parts are authorized one by one, so nothing is taken from the answer. -/
def askParts (s : Session) {m : Multipart} (h : s.mode = .multipart m) : Step s .authorizing := do
  match ← exchange s.offsetRequest with
  | .error cause => return .failed (.server cause) s
  | .ok _ => return .next .transferring s (by simp only [Session.stepsLeft, h]; split <;> omega)

/-- The provider's name for an upload, from its answer to the initiation. -/
def readStorageId (answer : Response) : Except StepError String :=
  match answer.text with
  | .error cause => .error (.server cause)
  | .ok document =>
    match Initiation.uploadId? document with
    | none => .error (.misfit (.badInitiation "not the expected document"))
    | some id => if trimBlank id = "" then .error (.misfit .emptyStorageId) else .ok (trimBlank id)

/-- Open the upload at the provider. -/
def openStorage (s : Session) (m : Multipart) (h : s.mode = .multipart m)
    (closed : m.storageId = none) : Step s .transferring := do
  match m.initiate.toRequest? with
  | none => return .failed (.misfit (.unsupportedMethod m.initiate.method)) s
  | some request =>
    match ← exchange request with
    | .error cause => return .failed (.storage cause) s
    | .ok answer =>
      match readStorageId answer with
      | .error cause => return .failed cause s
      | .ok id =>
        let m := { m with storageId := some id, tags := [] }
        return .next .transferring { s with mode := .multipart m, startByte := 0 } (by
          simp [Session.stepsLeft, Session.size, h, closed, m])

/-- The request that asks for a part to be authorized. -/
def partRequest (s : Session) (m : Multipart) (storageId : String) (wanted : Nat) : Request :=
  ((Request.post "file/chunk").withQueryPairs
    [("offset", "0"), ("uploadId", s.uploadId)]).withBody <| .json <| .object
      [("contentLength", .int wanted), ("partNumber", .int m.nextPart),
        ("s3UploadId", .str storageId)]

/-- The length of a part: what is granted, as far as the file goes.  Every part has to come further, so
no bytes at all are granted only where none are wanted. -/
def grantedLength (granted : Option Nat) (wanted room : Nat) : Option Nat :=
  match granted with
  | none => some wanted
  | some n => if n = 0 ∧ 0 < wanted then none else some (min n room)

theorem grantedLength_pos {granted : Option Nat} {wanted room length : Nat}
    (h : grantedLength granted wanted room = some length) (hw : 0 < wanted) (hr : 0 < room) :
    0 < length := by
  unfold grantedLength at h
  split at h
  · cases h; exact hw
  · split at h
    · cases h
    · cases h; omega

/-- Have the next part authorized, and send it. -/
def sendPart (s : Session) (m : Multipart) (storageId : String) (h : s.mode = .multipart m)
    (opened : m.storageId = some storageId) : Step s .transferring := do
  let wanted := min (s.startByte + m.partSize.bytes) s.size - s.startByte
  match (← exchange (partRequest s m storageId wanted)).bind
      (Response.read StorageGrant.readPart?) with
  | .error cause => return .failed (.server cause) s
  | .ok grant =>
    match granted : grantedLength grant.chunkLength wanted (s.size - s.startByte) with
    | none => return .failed (.misfit (.emptyGrant m.nextPart)) s
    | some length =>
      let stop := s.startByte + length
      match ← fetch s.file.source s.startByte stop with
      | .error cause => return .failed (.file cause) s
      | .ok data =>
        let sending := { s with chunkLength := length }
        match grant.request.toRequest? with
        | none => return .failed (.misfit (.unsupportedMethod grant.request.method)) sending
        | some request =>
          match ← deliver s s.startByte data length request with
          | .error cause => return .failed (.storage cause) sending
          | .ok answer =>
            match answer.header? "etag" with
            | none => return .failed (.misfit .missingTag) sending
            | some tag =>
              tell (.chunkSent s.id length stop)
              let m' := { m with tags := m.tags ++ [tag] }
              let sent := { sending with startByte := stop, mode := .multipart m' }
              if more : stop < s.size then
                return .next .transferring sent (by
                  have := m.partSize.positive
                  have := grantedLength_pos granted (by omega) (by omega)
                  simp only [Session.stepsLeft, Session.size, sent, sending, m', h, opened,
                    Option.isNone_some, Bool.false_eq_true, if_false] at *
                  omega)
              else
                return .next .completing sent (by
                  simp [Session.stepsLeft, sent, h, opened])

/-- What the server's answer to a completion holds: the finished record, and the signed request for the
manifest. -/
def readFinalization (answer : Record) : Except Misfit (Record × SignedRequest) :=
  match answer.get? "s3FinalizeRequest" with
  | none => .error .missingFinalization
  | some value =>
    match SignedRequest.read? (.ofValue value) with
    | none => .error (.badFinalization "not the expected document")
    | some signed => .ok (answer.erase "s3FinalizeRequest", signed)

/-- Send the manifest, the last exchange of an upload. -/
def sendManifest {bound : Nat} (s : Session) (m : Multipart) (file : Record)
    (signed : SignedRequest) : Dialogue UploadEvent (StepResult bound) := do
  match signed.toRequest? with
  | none => return .failed (.misfit (.unsupportedMethod signed.method)) s
  | some request =>
    match ← exchange (request.withBody (.text (Manifest.render m.parts))) with
    | .error cause => return .failed (.storage cause) s
    | .ok _ => return .finished s file

/-- Tell the server that all parts are stored, and send the manifest. -/
def completeParts {bound : Nat} (s : Session) (m : Multipart) :
    Dialogue UploadEvent (StepResult bound) := do
  match m.finalize with
  | some (file, signed) => sendManifest s m file signed
  | none =>
    match (← exchange (completionRequest s)).bind Response.record with
    | .error cause => return .failed (.server cause) s
    | .ok answer =>
      match readFinalization answer with
      | .error cause => return .failed (.misfit cause) s
      | .ok (file, signed) =>
        let m := { m with finalize := some (file, signed) }
        sendManifest { s with mode := .multipart m } m file signed

/-! ### The next step -/

/-- Have the next part authorized and sent, once the upload is open at the provider. -/
def sendNextPart (s : Session) (m : Multipart) (h : s.mode = .multipart m) :
    Step s .transferring :=
  match opened : m.storageId with
  | none => openStorage s m h opened
  | some storageId => sendPart s m storageId h opened

/-- The next step of a session, by its mode and phase.  An upload through the server is over with the answer to
its last chunk, which is the file; if it came to be completed, there would be none. -/
def step (chunkSize : ChunkSize) (s : Session) : (phase : Phase) → Step s phase
  | .authorizing =>
    match h : s.mode with
    | .server => askOffset s h
    | .single r => askSignature s ⟨r, h⟩
    | .multipart _ => askParts s h
  | .transferring =>
    match h : s.mode with
    | .server => sendChunk chunkSize s h
    | .single r => sendWhole s r h
    | .multipart m => sendNextPart s m h
  | .completing =>
    match s.mode with
    | .server => return .failed (.misfit .missingFile) s
    | .single _ => completeWhole s
    | .multipart m => completeParts s m

end Depot
