import Depot.Proofs.Upload.Granted
import Depot.Proofs.Upload.Step
import Depot.Proofs.Upload.ThroughStorage

/-!
# Uploads in parts

An upload whose grant is for parts, whatever is answered and however often it is resumed.  What the exchanges
come to is kept in a `Ledger`: whether the upload is open at the storage, which parts have been authorized and
which of them acknowledged, the signed request for the manifest, and the manifests that have been sent.  The
ledger decides what may be asked next (`Ledger.Admits`), and by that nothing is done twice that has been
acknowledged (`acknowledged_work_stays_done`).

The invariant (`Underway`) is that the session knows what is in the ledger: the parts that it lists are the
parts that were acknowledged, in their order and numbered from one, and joined they are the bytes of the file
up to where the session goes on.  They are the whole file exactly when the session completes.
-/

namespace Depot.PartedUpload

open DirectStorage (partNumber?)
open Dialogue (Environment Exchange Log exchanges requests tally tally_read tally_sent tally_sent_told tally_told)
open Route (asksLanded isChunk isCompletion)

/-! ### Readings of replies -/

/-- The tag by which a part is acknowledged. -/
def tag? (reply : Reply) : Option String :=
  match reply.outcome with
  | .ok answer => answer.header? "etag"
  | .error _ => none

/-- The storage's name for the upload. -/
def storageId? (reply : Reply) : Option String :=
  match reply.outcome with
  | .ok answer => (readStorageId answer).toOption
  | .error _ => none

/-- The record of the file, and the signed request for the manifest. -/
def finalization? (reply : Reply) : Option (Record × SignedRequest) :=
  match reply.outcome.bind Response.record with
  | .ok answer => (readFinalization answer).toOption
  | .error _ => none

/-! ### Ledgers -/

/-- A part that was acknowledged. -/
structure Part where
  number : Nat
  tag : String
  data : Bytes

/-- What the exchanges of an upload come to. -/
structure Ledger where
  /-- The storage has named the upload. -/
  opened : Bool
  /-- The numbers for which authorization was asked, in the order in which it was. -/
  authorized : List Nat
  /-- The parts that were acknowledged, in the order in which they were. -/
  acknowledged : List Part
  /-- The record of the file and the signed request for the manifest, once the server has given them. -/
  finalization : Option (Record × SignedRequest)
  /-- The manifests that were sent. -/
  manifests : List Request
  /-- The storage has taken a manifest. -/
  assembled : Bool

namespace Ledger

/-- The number of the part that was authorized last; what is sent then is that part. -/
def current (l : Ledger) : Nat := l.authorized.getLastD 0

/-- The ledger after one more exchange. -/
def add (l : Ledger) (x : Exchange) : Ledger :=
  if x.request.isApiRequest then
    if isChunk x.request then
      match partNumber? x.request with
      | some number => { l with authorized := l.authorized ++ [number] }
      | none => l
    else if isCompletion x.request then
      match finalization? x.reply with
      | some given => { l with finalization := some given }
      | none => l
    else l
  else
    match x.request.body with
    | .bytes data =>
      match tag? x.reply with
      | some tag => { l with acknowledged := l.acknowledged ++ [⟨l.current, tag, data⟩] }
      | none => l
    | .text _ =>
      { l with manifests := l.manifests ++ [x.request], assembled := l.assembled || x.reply.outcome.isOk }
    | _ => { l with opened := l.opened || (storageId? x.reply).isSome }

/-- The ledger at the beginning of an upload. -/
def start : Ledger := ⟨false, [], [], none, [], false⟩

/-- The acknowledged parts as a manifest lists them. -/
def listed (l : Ledger) : List (Nat × String) := l.acknowledged.map fun p => (p.number, p.tag)

/-- The bytes of the acknowledged parts. -/
def joined (l : Ledger) : Bytes := l.acknowledged.flatMap Part.data

/-- There are acknowledged parts, and they are the whole file. -/
def Covers (l : Ledger) (content : Bytes) : Prop := l.acknowledged ≠ [] ∧ l.joined = content

/-- What may be asked next. -/
structure Admits (l : Ledger) (grant : StorageGrant) (content : Bytes) (request : Request) : Prop where
  /-- The request that opens the upload is not sent again once the storage has named it. -/
  opening : request.isApiRequest = false → request.body = .empty →
    l.opened = false ∧ grant.request.toRequest? = some request
  /-- Numbers never go down; a part that was acknowledged is not authorized again, nor is any part once the
  file is covered. -/
  authorization : isChunk request = true → ∃ number, partNumber? request = some number ∧
    (∀ k ∈ l.authorized, k ≤ number) ∧ (∀ p ∈ l.acknowledged, p.number ≠ number) ∧ ¬ l.Covers content
  /-- Nor is it sent again. -/
  part : ∀ data, request.isApiRequest = false → request.body = .bytes data → l.current ∈ l.authorized ∧
    (∀ p ∈ l.acknowledged, p.number ≠ l.current) ∧ ¬ l.Covers content
  /-- The server is told when the file is covered, until it gives the request for the manifest. -/
  completion : isCompletion request = true → l.Covers content ∧ l.finalization = none
  /-- From then on nothing is sent but the manifest of the acknowledged parts, with that request. -/
  finalized : ∀ file signed, l.finalization = some (file, signed) → ∃ sent,
    signed.toRequest? = some sent ∧ request = sent.withBody (.text (Manifest.render l.listed))
  /-- And it is always the same manifest. -/
  manifest : ∀ sent ∈ l.manifests, request = sent
  /-- Once the storage has taken it, nothing is asked any more. -/
  unassembled : l.assembled = false
  /-- How many bytes have landed is never asked. -/
  landed : asksLanded request = false

/-! What one more exchange adds. -/

section Adding

variable {l : Ledger} {request : Request} {reply : Reply}

theorem add_authorization {number : Nat} (api : request.isApiRequest = true) (chunk : isChunk request = true)
    (asked : partNumber? request = some number) :
    l.add ⟨request, reply⟩ = { l with authorized := l.authorized ++ [number] } := by
  simp only [add, api, chunk, asked, if_true]

theorem add_part {data : Bytes} (outside : request.isApiRequest = false) (body : request.body = .bytes data) :
    l.add ⟨request, reply⟩ = { l with
      acknowledged := l.acknowledged ++ ((tag? reply).map fun tag => ⟨l.current, tag, data⟩).toList } := by
  rcases tagged : tag? reply with - | tag
  · simp [add, outside, body, tagged]
  · simp [add, outside, body, tagged]

theorem add_completion {s : Session} : l.add ⟨completionRequest s, reply⟩ =
    { l with finalization := (finalization? reply).or l.finalization } := by
  have api : (completionRequest s).isApiRequest = true := rfl
  have other : isChunk (completionRequest s) = false := by simp [isChunk, completionRequest]
  rcases given : finalization? reply with - | given
  · simp [add, api, other, given]
  · simp [add, api, other, given]

theorem add_manifest {text : String} (outside : request.isApiRequest = false) (body : request.body = .text text) :
    l.add ⟨request, reply⟩ = { l with
      manifests := l.manifests ++ [request], assembled := l.assembled || reply.outcome.isOk } := by
  simp [add, outside, body]

theorem add_opening (outside : request.isApiRequest = false) (body : request.body = .empty) :
    l.add ⟨request, reply⟩ = { l with opened := l.opened || (storageId? reply).isSome } := by
  simp [add, outside, body]

/-- The initiation is no matter of the ledger. -/
theorem add_initiation (target : UploadTarget) (file : UploadFile) :
    l.add ⟨initiationRequest target file, reply⟩ = l := by
  cases target <;>
    simp [add, initiationRequest, Request.isApiRequest, isChunk, isCompletion]

end Adding

end Ledger

/-! ### The invariant -/

variable {target : UploadTarget} {file : UploadFile} {content : Bytes} {grant : StorageGrant}
  {log : Log UploadEvent} {s : Session} {m : Multipart} {l : Ledger}

/-- What a log comes to. -/
abbrev ledger (log : Log UploadEvent) : Ledger := tally Ledger.add .start log

/-- The session knows what is in the ledger. -/
structure Underway (file : UploadFile) (content : Bytes) (grant : StorageGrant) (s : Session) (m : Multipart)
    (l : Ledger) : Prop where
  file : s.file = file
  mode : s.mode = .multipart m
  initiate : m.initiate = grant.request
  within : s.startByte ≤ content.length
  opened : l.opened = m.storageId.isSome
  /-- Before the upload is open at the storage, no part is. -/
  unopened : m.storageId = none → m.tags = []
  listed : l.listed = m.parts
  joined : l.joined = content.take s.startByte
  authorized : ∀ k ∈ l.authorized, k ≤ m.nextPart
  finalization : l.finalization = m.finalize
  /-- Every manifest is that of the listed parts. -/
  manifests : ∀ sent ∈ l.manifests, ∃ file signed request, m.finalize = some (file, signed) ∧
    signed.toRequest? = some request ∧ sent = request.withBody (.text (Manifest.render m.parts))
  unassembled : l.assembled = false

/-- The session can take the step of this phase. -/
structure Ready (file : UploadFile) (content : Bytes) (grant : StorageGrant) (phase : Phase) (s : Session)
    (m : Multipart) (l : Ledger) : Prop extends Underway file content grant s m l where
  /-- Parts are authorized one by one, never all of them. -/
  begun : phase ≠ .authorizing
  /-- The parts are the whole file exactly when the session completes. -/
  covers_iff : l.Covers content ↔ phase = .completing
  unfinalized : phase ≠ .completing → m.finalize = none

/-- The chronicle of an upload; a call that was stopped leaves the session as it needs it. -/
def chronicle (file : UploadFile) (content : Bytes) (grant : StorageGrant) : Chronicle where
  ready phase s log := ∃ m, Ready file content grant phase s m (ledger log)
  stopped phase s log := ∃ m, Ready file content grant phase s m (ledger log)
  arrived _ _ _ := True

/-- What may be asked, by the ledger. -/
abbrev pact (target : UploadTarget) (file : UploadFile) (content : Bytes) (grant : StorageGrant) :=
  granted target file content grant fun past => (ledger past).Admits grant content

theorem isChunk_partRequest (storageId : String) (wanted : Nat) :
    isChunk (partRequest s m storageId wanted) = true := by
  simp [isChunk, partRequest]

namespace Ready

variable {phase : Phase} {request : Request} {reply : Reply}

/-- An acknowledged part is none that is still to come. -/
theorem ne_nextPart (ready : Ready file content grant phase s m l) :
    ∀ p ∈ l.acknowledged, p.number ≠ m.nextPart := by
  intro p member
  have listed : (p.number, p.tag) ∈ m.parts := by
    rw [← ready.listed]
    exact List.mem_map_of_mem member
  exact m.ne_nextPart_of_mem_parts listed

/-- As long as there is no request for the manifest, none has been sent. -/
theorem no_manifests (ready : Ready file content grant phase s m l) (unfinalized : m.finalize = none) :
    l.manifests = [] := by
  rw [List.eq_nil_iff_forall_not_mem]
  intro sent member
  obtain ⟨file, signed, request, some, -⟩ := ready.manifests sent member
  cases unfinalized.symm.trans some

theorem size_eq (ready : Ready file content grant phase s m l) (sized : file.source.size = content.length) :
    s.size = content.length := by
  rw [Session.size, ready.file, UploadFile.size, sized]

/-- Where a session goes on is no matter of how long its last chunk was. -/
theorem sending (ready : Ready file content grant phase s m l) (length : Nat) :
    Ready file content grant phase { s with chunkLength := length } m l :=
  { ready with }

/-! The ledger of a longer log. -/

theorem sent (ready : Ready file content grant phase s m ((ledger log).add ⟨request, reply⟩)) :
    Ready file content grant phase s m (ledger (log ++ [.sent request reply])) := by
  rwa [ledger, tally_sent]

theorem delivered {told : List UploadEvent}
    (ready : Ready file content grant phase s m ((ledger log).add ⟨request, reply⟩)) :
    Ready file content grant phase s m (ledger (log ++ .sent request reply :: told.map .told)) := by
  rwa [ledger, tally_sent_told]

theorem read {source : ByteSource} {start stop : Nat} {outcome : Except IoError Bytes}
    (ready : Ready file content grant phase s m (ledger log)) :
    Ready file content grant phase s m (ledger (log ++ [.read source start stop outcome])) := by
  rwa [ledger, tally_read]

theorem told {e : UploadEvent} (ready : Ready file content grant phase s m (ledger log)) :
    Ready file content grant phase s m (ledger (log ++ [.told e])) := by
  rwa [ledger, tally_told]

/-! ### What an exchange leaves -/

/-- The storage does not name the upload. -/
theorem unnamed (ready : Ready file content grant phase s m l) (outside : request.isApiRequest = false)
    (body : request.body = .empty) (unnamed : storageId? reply = none) :
    Ready file content grant phase s m (l.add ⟨request, reply⟩) := by
  rw [Ledger.add_opening outside body, unnamed, Option.isSome_none, Bool.or_false]
  exact ready

/-- The storage names the upload. -/
theorem named (ready : Ready file content grant .transferring s m l) (closed : m.storageId = none)
    (outside : request.isApiRequest = false) (body : request.body = .empty) {id : String}
    (named : storageId? reply = some id) : Ready file content grant .transferring
      { s with mode := .multipart { m with storageId := some id, tags := [] }, startByte := 0 }
      { m with storageId := some id, tags := [] } (l.add ⟨request, reply⟩) := by
  have noTags := ready.unopened closed
  have noParts : l.acknowledged = [] := by
    have listed := ready.listed
    rw [Multipart.parts, noTags] at listed
    exact List.map_eq_nil_iff.1 listed
  rw [Ledger.add_opening outside body, named, Option.isSome_some, Bool.or_true]
  exact
    { file := ready.file
      mode := rfl
      initiate := ready.initiate
      within := Nat.zero_le _
      opened := rfl
      unopened := fun _ => rfl
      listed := by
        show l.acknowledged.map _ = _
        rw [noParts]
        rfl
      joined := by
        show l.acknowledged.flatMap Part.data = content.take 0
        rw [noParts, List.take_zero]
        rfl
      authorized := by
        intro k member
        have bound := ready.authorized k member
        rwa [Multipart.nextPart, noTags] at bound
      finalization := ready.finalization
      manifests := by
        rw [ready.no_manifests (ready.unfinalized (by simp))]
        exact List.forall_mem_nil _
      unassembled := ready.unassembled
      begun := ready.begun
      covers_iff := ready.covers_iff
      unfinalized := ready.unfinalized }

/-- Authorization is asked for the next part. -/
theorem authorize (ready : Ready file content grant .transferring s m l) (storageId : String) (wanted : Nat) :
    Ready file content grant .transferring s m (l.add ⟨partRequest s m storageId wanted, reply⟩) := by
  rw [Ledger.add_authorization rfl (isChunk_partRequest _ _) (DirectStorage.partNumber?_partRequest _ _)]
  exact
    { ready with
      authorized := by
        intro k member
        rcases List.mem_append.1 member with before | last
        · exact ready.authorized k before
        · exact Nat.le_of_eq (List.mem_singleton.1 last) }

/-- And then it is the one that was authorized last. -/
theorem latest_authorize (storageId : String) (wanted : Nat) :
    (l.add ⟨partRequest s m storageId wanted, reply⟩).authorized.getLast? = some m.nextPart := by
  rw [Ledger.add_authorization rfl (isChunk_partRequest _ _) (DirectStorage.partNumber?_partRequest _ _)]
  exact List.getLast?_concat

theorem current_eq {number : Nat} (latest : l.authorized.getLast? = some number) : l.current = number := by
  rw [Ledger.current, List.getLastD_eq_getLast?, latest, Option.getD_some]

/-- A part is not acknowledged. -/
theorem untagged (ready : Ready file content grant phase s m l) (outside : request.isApiRequest = false)
    {data : Bytes} (body : request.body = .bytes data) (untagged : tag? reply = none) :
    Ready file content grant phase s m (l.add ⟨request, reply⟩) := by
  rw [Ledger.add_part outside body, untagged, Option.map_none, Option.toList_none, List.append_nil]
  exact ready

open DirectStorage.Underway (acknowledge)

/-- **A part that is acknowledged is listed**, and then the session goes on behind it, or completes. -/
theorem tagged (ready : Ready file content grant .transferring s m l)
    (opened : m.storageId ≠ none) (latest : l.authorized.getLast? = some m.nextPart) {length : Nat}
    (inside : s.startByte + length ≤ content.length) (outside : request.isApiRequest = false)
    (body : request.body = .bytes (ByteSource.slice content s.startByte (s.startByte + length)))
    {tag : String} (tagged : tag? reply = some tag) :
    Ready file content grant (if s.startByte + length < content.length then .transferring else .completing)
      (acknowledge s m length tag) { m with tags := m.tags ++ [tag] } (l.add ⟨request, reply⟩) := by
  let part : Part := ⟨m.nextPart, tag, ByteSource.slice content s.startByte (s.startByte + length)⟩
  have entered : l.add ⟨request, reply⟩ = { l with acknowledged := l.acknowledged ++ [part] } := by
    rw [Ledger.add_part outside body, tagged, current_eq latest]
    rfl
  have joined : (l.acknowledged ++ [part]).flatMap Part.data = content.take (s.startByte + length) := by
    have front : l.acknowledged.flatMap Part.data = content.take s.startByte := ready.joined
    rw [List.flatMap_append, front, List.flatMap_singleton]
    exact ByteSource.take_append_slice (Nat.le_add_right _ _)
  have covers : { l with acknowledged := l.acknowledged ++ [part] }.Covers content ↔
      s.startByte + length = content.length := by
    constructor
    · intro covers
      have whole := congrArg List.length (joined.symm.trans covers.2)
      rw [List.length_take] at whole
      omega
    · intro last
      refine ⟨List.append_ne_nil_of_right_ne_nil _ (List.cons_ne_nil _ _), ?_⟩
      exact joined.trans (by rw [last, List.take_length])
  rw [entered]
  exact
    { file := ready.file
      mode := rfl
      initiate := ready.initiate
      within := inside
      opened := ready.opened
      unopened := fun closed => absurd closed opened
      listed := by
        have front : l.acknowledged.map (fun p => (p.number, p.tag)) = m.parts := ready.listed
        show (l.acknowledged ++ [part]).map _ = _
        rw [List.map_append, front, Multipart.parts_concat]
        rfl
      joined := joined
      authorized := by
        intro k member
        have bound := ready.authorized k member
        simp only [Multipart.nextPart, List.length_append, List.length_singleton] at bound ⊢
        omega
      finalization := ready.finalization
      manifests := by
        rw [ready.no_manifests (ready.unfinalized (by simp))]
        exact List.forall_mem_nil _
      unassembled := ready.unassembled
      begun := by split <;> rintro ⟨⟩
      covers_iff := by
        -- whether the part is the last one is asked of the length, and the joined parts are that long
        rw [covers]
        split
        · simp only [reduceCtorEq, iff_false]
          omega
        · simp only [iff_true]
          omega
      unfinalized := fun _ => ready.unfinalized (by simp) }

/-- The server does not give the request for the manifest. -/
theorem ungiven (ready : Ready file content grant phase s m l) (ungiven : finalization? reply = none) :
    Ready file content grant phase s m (l.add ⟨completionRequest s, reply⟩) := by
  rw [Ledger.add_completion, ungiven, Option.none_or]
  exact ready

/-- The server gives the request for the manifest. -/
theorem given (ready : Ready file content grant .completing s m l) (unfinalized : m.finalize = none)
    {given : Record × SignedRequest} (gives : finalization? reply = some given) :
    Ready file content grant .completing { s with mode := .multipart { m with finalize := some given } }
      { m with finalize := some given } (l.add ⟨completionRequest s, reply⟩) := by
  rw [Ledger.add_completion, gives, Option.some_or]
  exact
    { ready with
      mode := rfl
      finalization := rfl
      manifests := by
        rw [ready.no_manifests unfinalized]
        exact List.forall_mem_nil _
      unfinalized := fun other => absurd rfl other }

/-- The manifest of a session whose request for it is `request`. -/
def manifestRequest (m : Multipart) (request : Request) : Request :=
  request.withBody (.text (Manifest.render m.parts))

/-- A manifest is not taken. -/
theorem untaken (ready : Ready file content grant .completing s m l) {record : Record}
    {signed : SignedRequest} (finalized : m.finalize = some (record, signed))
    (sends : signed.toRequest? = some request) {cause : HttpError} (refused : reply.outcome = .error cause) :
    Ready file content grant .completing s m (l.add ⟨manifestRequest m request, reply⟩) := by
  have outside : (manifestRequest m request).isApiRequest = false := (SignedRequest.sent_outside sends).1
  rw [Ledger.add_manifest outside rfl, refused]
  exact
    { ready with
      manifests := by
        intro sent member
        rcases List.mem_append.1 member with before | last
        · exact ready.manifests sent before
        · exact ⟨record, signed, request, finalized, sends, List.mem_singleton.1 last⟩
      unassembled := by
        show (l.assembled || false) = false
        rw [ready.unassembled, Bool.or_false] }

/-! ### What may be asked -/

/-- What has to be shown of a request as long as there is no request for the manifest. -/
theorem admits (ready : Ready file content grant phase s m l) (unfinalized : m.finalize = none)
    (opening : request.isApiRequest = false → request.body = .empty →
      m.storageId = none ∧ m.initiate.toRequest? = some request)
    (authorization : isChunk request = true →
      phase = .transferring ∧ partNumber? request = some m.nextPart)
    (part : ∀ data, request.isApiRequest = false → request.body = .bytes data →
      phase = .transferring ∧ l.authorized.getLast? = some m.nextPart)
    (completion : isCompletion request = true → phase = .completing)
    (landed : asksLanded request = false) : l.Admits grant content request := by
  have uncovered (transfers : phase = .transferring) : ¬ l.Covers content := by
    rw [ready.covers_iff, transfers]
    rintro ⟨⟩
  exact
    { opening := by
        intro outside body
        obtain ⟨closed, sends⟩ := opening outside body
        rw [ready.opened, closed, ← ready.initiate]
        exact ⟨rfl, sends⟩
      authorization := by
        intro chunk
        obtain ⟨transfers, asked⟩ := authorization chunk
        exact ⟨_, asked, ready.authorized, ready.ne_nextPart, uncovered transfers⟩
      part := by
        intro data outside body
        obtain ⟨transfers, latest⟩ := part data outside body
        rw [current_eq latest]
        exact ⟨List.mem_of_getLast? latest, ready.ne_nextPart, uncovered transfers⟩
      completion := by
        intro completes
        rw [ready.covers_iff, ready.finalization]
        exact ⟨completion completes, unfinalized⟩
      finalized := by
        intro file signed some
        cases unfinalized.symm.trans (ready.finalization.symm.trans some)
      manifest := by
        rw [ready.no_manifests unfinalized]
        exact List.forall_mem_nil _
      unassembled := ready.unassembled
      landed := landed }

theorem admits_opening (ready : Ready file content grant .transferring s m l) (closed : m.storageId = none)
    (sends : m.initiate.toRequest? = some request) : l.Admits grant content request := by
  obtain ⟨outside, body⟩ := SignedRequest.sent_outside sends
  obtain ⟨noChunk, noCompletion, notLanded⟩ := Route.of_outside outside
  apply ready.admits (ready.unfinalized (by simp))
  · exact fun _ _ => ⟨closed, sends⟩
  · simp [noChunk]
  · simp [body]
  · simp [noCompletion]
  · exact notLanded

theorem admits_authorization (ready : Ready file content grant .transferring s m l) (storageId : String)
    (wanted : Nat) : l.Admits grant content (partRequest s m storageId wanted) := by
  apply ready.admits (ready.unfinalized (by simp))
  · rintro ⟨⟩
  · exact fun _ => ⟨rfl, DirectStorage.partNumber?_partRequest _ _⟩
  · rintro data ⟨⟩
  · simp [isCompletion, partRequest]
  · simp [asksLanded, partRequest]

theorem admits_part (ready : Ready file content grant .transferring s m l)
    (latest : l.authorized.getLast? = some m.nextPart) (outside : request.isApiRequest = false)
    {data : Bytes} (body : request.body = .bytes data) : l.Admits grant content request := by
  obtain ⟨noChunk, noCompletion, notLanded⟩ := Route.of_outside outside
  apply ready.admits (ready.unfinalized (by simp))
  · simp [body]
  · simp [noChunk]
  · exact fun _ _ _ => ⟨rfl, latest⟩
  · simp [noCompletion]
  · exact notLanded

theorem admits_completion (ready : Ready file content grant .completing s m l)
    (unfinalized : m.finalize = none) : l.Admits grant content (completionRequest s) := by
  apply ready.admits unfinalized
  · rintro ⟨⟩
  · simp [isChunk, completionRequest]
  · rintro data ⟨⟩
  · exact fun _ => rfl
  · exact asksLanded_completionRequest s

/-- **The manifest is that of the acknowledged parts**, and the same as any before it. -/
theorem admits_manifest (ready : Ready file content grant .completing s m l) {record : Record}
    {signed : SignedRequest} (finalized : m.finalize = some (record, signed))
    (sends : signed.toRequest? = some request) : l.Admits grant content (manifestRequest m request) := by
  have outside : (manifestRequest m request).isApiRequest = false := (SignedRequest.sent_outside sends).1
  obtain ⟨noChunk, noCompletion, notLanded⟩ := Route.of_outside outside
  exact
    { opening := by rintro _ ⟨⟩
      authorization := by simp [noChunk]
      part := by rintro data _ ⟨⟩
      completion := by simp [noCompletion]
      finalized := by
        intro record' signed' given
        rw [ready.finalization, finalized] at given
        cases given
        exact ⟨request, sends, by rw [ready.listed, manifestRequest]⟩
      manifest := by
        intro sent member
        obtain ⟨record', signed', request', given, sends', rfl⟩ := ready.manifests sent member
        rw [finalized] at given
        cases given
        cases sends.symm.trans sends'
        rfl
      unassembled := ready.unassembled
      landed := notLanded }

end Ready

/-! ### The steps -/

/-- **The upload is opened at the storage** only while the storage has not named it. -/
theorem openStorage_honours (h : s.mode = .multipart m) (closed : m.storageId = none)
    (ready : Ready file content grant .transferring s m (ledger log)) :
    (openStorage s m h closed).Honours (pact target file content grant)
      ((chronicle file content grant).AfterStep .transferring) log := by
  rw [openStorage]
  rcases sends : m.initiate.toRequest? with - | request
  · exact ⟨m, ready⟩
  obtain ⟨outside, body⟩ := SignedRequest.sent_outside sends
  refine honours_exchange.2 ⟨.inr (ready.admits_opening closed sends), fun reply _ => ?_⟩
  rcases answered : reply.outcome with cause | answer
  · exact ⟨m, (ready.unnamed outside body (by simp only [storageId?, answered])).sent⟩
  simp only []
  rcases reads : readStorageId answer with cause | id
  · have unnamed : storageId? reply = none := by simp only [storageId?, answered, reads, Except.toOption]
    exact ⟨m, (ready.unnamed outside body unnamed).sent⟩
  · have named : storageId? reply = some id := by simp only [storageId?, answered, reads, Except.toOption]
    exact ⟨{ m with storageId := some id, tags := [] }, (ready.named closed outside body named).sent⟩

/-- **A part is the next slice of the file**, and its number is that of no part that was acknowledged. -/
theorem sendPart_honours {storageId : String} (h : s.mode = .multipart m)
    (opened : m.storageId = some storageId) (sized : file.source.size = content.length)
    (ready : Ready file content grant .transferring s m (ledger log)) :
    (sendPart s m storageId h opened).Honours (pact target file content grant)
      ((chronicle file content grant).AfterStep .transferring) log := by
  have within := ready.within
  have size_eq := ready.size_eq sized
  let wanted := min (s.startByte + m.partSize.bytes) s.size - s.startByte
  have wanted_le : wanted ≤ s.size - s.startByte := by simp only [wanted]; omega
  refine honours_exchange.2 ⟨.inr (ready.admits_authorization storageId wanted), fun reply _ => ?_⟩
  have authorized : Ready file content grant .transferring s m
      (ledger (log ++ [.sent (partRequest s m storageId wanted) reply])) :=
    (ready.authorize storageId wanted).sent
  have latest : (ledger (log ++ [.sent (partRequest s m storageId wanted) reply])).authorized.getLast? =
      some m.nextPart := by
    rw [ledger, tally_sent]
    exact Ready.latest_authorize storageId wanted
  -- of what has happened up to here, only this matters from now on
  generalize log ++ [.sent (partRequest s m storageId wanted) reply] = past at authorized latest ⊢
  split
  · exact ⟨m, authorized⟩
  next part _ =>
  split
  · exact ⟨m, authorized⟩
  next length granted =>
  have length_le := DirectStorage.grantedLength_le granted wanted_le
  have inside : s.startByte + length ≤ content.length := by omega
  refine honours_fetch.2 fun outcome relied => ?_
  rcases outcome with cause | data
  · exact ⟨m, authorized.read⟩
  rw [ready.file] at relied
  obtain rfl := slice_of_relies relied
  let data := ByteSource.slice content s.startByte (s.startByte + length)
  have sending : Ready file content grant .transferring { s with chunkLength := length } m
      (ledger (past ++ [.read s.file.source s.startByte (s.startByte + length) (.ok data)])) :=
    (authorized.sending length).read
  have latest : (ledger (past ++ [.read s.file.source s.startByte (s.startByte + length)
      (.ok data)])).authorized.getLast? = some m.nextPart := by
    rwa [ledger, tally_read]
  rcases sends : part.request.toRequest? with - | request
  · exact ⟨m, sending⟩
  have outside : (carrying request data).isApiRequest = false := (SignedRequest.sent_outside sends).1
  refine honours_deliver.2 ⟨.inr (sending.admits_part latest outside rfl), fun reply _ => ?_⟩
  rcases answered : reply.outcome with cause | answer
  · exact ⟨m, (sending.untagged outside rfl (by simp only [tag?, answered])).delivered⟩
  simp only []
  rcases reads : answer.header? "etag" with - | tag
  · exact ⟨m, (sending.untagged outside rfl (by simp only [tag?, answered, reads])).delivered⟩
  have tagged : tag? reply = some tag := by simp only [tag?, answered, reads]
  have named : m.storageId ≠ none := by rw [opened]; exact Option.some_ne_none _
  have acknowledged := sending.tagged named latest inside outside rfl tagged
  rw [Dialogue.honours_bind, Dialogue.honours_tell]
  split
  · next more =>
    rw [if_pos (size_eq ▸ more)] at acknowledged
    exact ⟨{ m with tags := m.tags ++ [tag] }, acknowledged.delivered.told⟩
  · next last =>
    rw [if_neg (size_eq ▸ last)] at acknowledged
    exact ⟨{ m with tags := m.tags ++ [tag] }, acknowledged.delivered.told⟩

theorem sendManifest_honours {bound : Nat} {record : Record} {signed : SignedRequest}
    (finalized : m.finalize = some (record, signed))
    (ready : Ready file content grant .completing s m (ledger log)) :
    (sendManifest s m record signed : Dialogue UploadEvent (StepResult bound)).Honours
      (pact target file content grant) ((chronicle file content grant).AfterStep .completing) log := by
  rw [sendManifest]
  rcases sends : signed.toRequest? with - | request
  · exact ⟨m, ready⟩
  refine honours_exchange.2 ⟨.inr (ready.admits_manifest finalized sends), fun reply _ => ?_⟩
  rcases answered : reply.outcome with cause | answer
  · exact ⟨m, (ready.untaken finalized sends answered).sent⟩
  · trivial

/-- **The manifest is sent** once the server has given the request for it. -/
theorem completeParts_honours {bound : Nat} (ready : Ready file content grant .completing s m (ledger log)) :
    (completeParts s m : Dialogue UploadEvent (StepResult bound)).Honours (pact target file content grant)
      ((chronicle file content grant).AfterStep .completing) log := by
  rw [completeParts]
  rcases finalized : m.finalize with - | ⟨record, signed⟩
  case some => exact sendManifest_honours finalized ready
  refine honours_exchange.2 ⟨.inr (ready.admits_completion finalized), fun reply _ => ?_⟩
  rcases answered : reply.outcome.bind Response.record with cause | answer
  · exact ⟨m, (ready.ungiven (by simp only [finalization?, answered])).sent⟩
  simp only []
  rcases reads : readFinalization answer with cause | ⟨record, signed⟩
  · exact ⟨m, (ready.ungiven (by simp only [finalization?, answered, reads, Except.toOption])).sent⟩
  have given : finalization? reply = some (record, signed) := by
    simp only [finalization?, answered, reads, Except.toOption]
  exact sendManifest_honours rfl (ready.given finalized given).sent

/-- **Every step keeps the chronicle.** -/
theorem kept (sized : file.source.size = content.length) (chunkSize : ChunkSize) :
    (chronicle file content grant).KeptBy (pact target file content grant) chunkSize := by
  rintro phase s log ⟨m, ready⟩
  cases phase with
  | authorizing => exact absurd rfl ready.begun
  | transferring =>
    rcases open? : m.storageId with - | storageId
    · rw [step_opening ready.mode open?]
      exact openStorage_honours ready.mode open? ready
    · rw [step_part ready.mode open?]
      exact sendPart_honours ready.mode open? sized ready
  | completing =>
    rw [step_completing_multipart ready.mode]
    exact completeParts_honours ready

/-! ### Whole uploads -/

theorem upkeep (sized : file.source.size = content.length) (parts : grant.chunked = true) :
    Chronicle.Upkeep (pact target file content grant) (fun _ => chronicle file content grant) target file where
  steps := fun _ => kept sized
  initiation := .inl ⟨rfl, rfl⟩
  opened := by
    intro chunkSize id reply relied
    obtain ⟨s, partSize, opened, sameFile, start, mode⟩ :=
      (grants_of_relies relied).opens_multipart chunkSize id target file parts
    have ready : Ready file content grant .transferring s ⟨grant.request, partSize, none, [], none⟩
        (ledger ([] ++ [.sent (initiationRequest target file) reply])) := by
      simp only [tally_sent, Ledger.add_initiation]
      exact
        { file := sameFile
          mode := mode
          initiate := rfl
          within := by rw [start]; exact Nat.zero_le _
          opened := rfl
          unopened := fun _ => rfl
          listed := rfl
          joined := by rw [start, List.take_zero]; rfl
          authorized := List.forall_mem_nil _
          finalization := rfl
          manifests := List.forall_mem_nil _
          unassembled := rfl
          begun := by rintro ⟨⟩
          covers_iff := ⟨fun covers => absurd rfl covers.1, by rintro ⟨⟩⟩
          unfinalized := fun _ => rfl }
    exact ⟨.transferring, s, opened, _, ready⟩
  resumable := by
    rintro earlier phase s log e ⟨m, stopped⟩
    have same : s.resumeAt phase = phase := by simp only [Session.resumeAt, stopped.mode]
    rw [same]
    exact ⟨m, Ready.told stopped⟩

/-- **Acknowledged work is not done again.**  Whatever is answered and however often the upload is resumed,
everything that is asked after the initiation is admitted by the ledger of the exchanges before it. -/
theorem acknowledged_work_stays_done {σ : Type} {env : Environment σ} {t : σ}
    (reads : env.Reads file.source content)
    (grants : (env.send (initiationRequest target file) t).1.Grants grant) (parts : grant.chunked = true)
    (u : Uploader) (resumes : Nat) :
    ∀ before request reply after,
      ((u.insist target file resumes).run env t).log = before ++ .sent request reply :: after →
      (exchanges before = [] ∧ request = initiationRequest target file) ∨
        (ledger before).Admits grant content request := by
  have relied : Dialogue.Follows (pact target file content grant).relies []
    ((u.insist target file resumes).run env t).log := follows_granted reads grants u resumes
  have maintained : Chronicle.Upkeep (pact target file content grant)
    (fun _ => chronicle file content grant) target file := upkeep reads.size_eq parts
  obtain ⟨admitted, -⟩ := (Chronicle.insist_honours (u := u) maintained resumes).run env t relied
  rw [Dialogue.follows_iff] at admitted
  intro before request reply after log
  exact admitted before _ after log

open DirectStorage (plain rough) in
/-- Three bytes in a rough connection: the answer to the manifest is lost, and it is sent again as it was. -/
theorem acknowledged_work_stays_done_rough :
    let log := (((Uploader.new (.atLeastOne 2)).insist (.folder "p") (.ofBytes "a" [1, 2, 3]) 3).run
      (rough.environment plain.peer fun _ => none) (.start .empty)).log
    (ledger (log.take 20)).manifests.length = 1 ∧
      (requests (log.drop 20)).head? = (ledger (log.take 20)).manifests.head? := by
  intro log
  have holds : ByteSource.Holds (fun _ => none) (UploadFile.ofBytes "a" [1, 2, 3]).source [1, 2, 3] := rfl
  obtain ⟨record, opening, grant, body, noFile, opens, direct, storage, parts, -⟩ := plain.opens
  have grants : ((rough.environment plain.peer fun _ => none).send
      (initiationRequest (.folder "p") (.ofBytes "a" [1, 2, 3])) (.start .empty)).1.Grants grant := by
    have answer : ((rough.environment plain.peer fun _ => none).send
        (initiationRequest (.folder "p") (.ofBytes "a" [1, 2, 3])) (.start .empty)).1.outcome =
        (plain.peer (initiationRequest (.folder "p") (.ofBytes "a" [1, 2, 3])) .empty).1 := rfl
    refine ⟨record, opening, ?_, noFile, opens, direct, storage⟩
    rw [answer, DirectStorage.peer_initiationRequest]
    simp only [Except.bind]
    exact body
  have admitted := acknowledged_work_stays_done (holds.reads_over rough plain.peer) grants parts
    (.new (.atLeastOne 2)) 3 (log.take 20)
  have run : (ledger (log.take 20)).manifests.length = 1 ∧ (exchanges (log.take 20)).isEmpty = false ∧
      (exchanges ((log.drop 20).take 1)).isEmpty = false := by
    decide +kernel
  obtain ⟨one, begun, sends⟩ := run
  refine ⟨one, ?_⟩
  obtain ⟨first, manifests⟩ := List.length_eq_one_iff.1 one
  rcases rest : log.drop 20 with - | ⟨⟨request, reply⟩ | _ | _, after⟩
  case cons.sent =>
    have log_eq : log = log.take 20 ++ .sent request reply :: after := by
      rw [← rest, List.take_append_drop]
    rcases admitted request reply after log_eq with ⟨none, -⟩ | admits
    · rw [none] at begun
      cases begun
    · have same : request = first := admits.manifest first (by rw [manifests]; exact List.mem_singleton_self _)
      rw [manifests, same]
      rfl
  all_goals
    rw [rest] at sends
    cases sends

end Depot.PartedUpload
