import Depot.Proofs.Dialogue.Leads
import Depot.Proofs.Upload.Outcome
import Depot.Proofs.Upload.Step

/-!
# What a step of an upload can do

`Transition` lists all that a step can do, whatever is answered: what happens, in its order, and what it comes
to.  It is an inductive relation for each way in which bytes travel, with one constructor for each end of a
step (`ServerStep`, `WholeStep`, `PartStep`), and `step_transition` ties it to `step`.  What is proved of
steps below is proved by cases on it; the steps themselves are not opened again.

What an answer is read as is a matter of the answer alone, and a reading fails with the cause for which the
step fails.
-/

namespace Depot

open Dialogue (Log)

/-! ### Readings of answers -/

namespace Reply

/-- The signed request that the server gives out. -/
def signature (reply : Reply) : Except StepError SignedRequest :=
  match reply.outcome.bind (Response.read SignedRequest.read?) with
  | .error cause => .error (.server cause)
  | .ok signed => .ok signed

/-- The provider's name for the upload. -/
def storageName (reply : Reply) : Except StepError String :=
  match reply.outcome with
  | .error cause => .error (.storage cause)
  | .ok answer => readStorageId answer

/-- The tag that the provider gives to a part. -/
def partTag (reply : Reply) : Except StepError String :=
  match reply.outcome with
  | .error cause => .error (.storage cause)
  | .ok answer =>
    match answer.header? "etag" with
    | none => .error (.misfit .missingTag)
    | some tag => .ok tag

/-- The record of the file, and the signed request for the manifest. -/
def finalization (reply : Reply) : Except StepError (Record × SignedRequest) :=
  match reply.outcome.bind Response.record with
  | .error cause => .error (.server cause)
  | .ok answer =>
    match readFinalization answer with
    | .error cause => .error (.misfit cause)
    | .ok given => .ok given

end Reply

namespace Session

variable (s : Session)

/-- How many bytes the server says have landed. -/
def landed (reply : Reply) : Except StepError Nat :=
  match reply.outcome.bind (Response.read readOffset?) with
  | .error cause => .error (.server cause)
  | .ok offset => if s.size < offset then .error (.misfit (.offsetPastEnd offset)) else .ok offset

/-- How many bytes the next part should have. -/
def wanted (m : Multipart) : Nat := min (s.startByte + m.partSize.bytes) s.size - s.startByte

/-- The signed request for the next part, and how many bytes it takes. -/
def authorized (m : Multipart) (reply : Reply) : Except StepError (SignedRequest × Nat) :=
  match reply.outcome.bind (Response.read StorageGrant.readPart?) with
  | .error cause => .error (.server cause)
  | .ok grant =>
    match grantedLength grant.chunkLength (s.wanted m) (s.size - s.startByte) with
    | none => .error (.misfit (.emptyGrant m.nextPart))
    | some length => .ok (grant.request, length)

/-! ### What is sent -/

/-- The request that brings the chunk which starts here. -/
def chunkRequest (start : Nat) : Request :=
  (Request.post "file/chunk").withQueryPairs [("offset", toString start), ("uploadId", s.uploadId)]

/-- Where the next chunk ends. -/
def chunkStop (chunkSize : ChunkSize) : Nat := min (s.startByte + chunkSize.bytes) s.size

/-- Bytes of the file are read and sent, and it is told how far they have come. -/
def carried (start stop length : Nat) (data : Bytes) (request : Request) (reply : Reply) : Log UploadEvent :=
  .read s.file.source start stop (.ok data) :: .sent (carrying request data) reply ::
    (reports s start length reply.progress).map .told

end Session

/-! ### Steps -/

/-- What a step comes to, apart from how many steps are left. -/
inductive Upshot where
  | next (phase : Phase) (s : Session)
  | finished (s : Session) (file : Record)
  | failed (cause : StepError) (s : Session)

def StepResult.upshot {bound : Nat} : StepResult bound → Upshot
  | .next phase s _ => .next phase s
  | .finished s file => .finished s file
  | .failed cause s => .failed cause s

/-- The session after the step. -/
@[simp] def Upshot.session : Upshot → Session
  | next _ s => s
  | finished s _ => s
  | failed _ s => s

/-- A step of a session whose bytes go through the server. -/
inductive ServerStep (chunkSize : ChunkSize) (s : Session) : Phase → Log UploadEvent → Upshot → Prop
  | unlocated {reply : Reply} {cause : StepError} (fails : s.landed reply = .error cause) :
      ServerStep chunkSize s .authorizing [.sent s.offsetRequest reply] (.failed cause s)
  | located {reply : Reply} {offset : Nat} (landed : s.landed reply = .ok offset) :
      ServerStep chunkSize s .authorizing [.sent s.offsetRequest reply]
        (.next .transferring { s with startByte := offset })
  | unread {cause : IoError} :
      ServerStep chunkSize s .transferring
        [.read s.file.source s.startByte (s.chunkStop chunkSize) (.error cause)]
        (.failed (.file cause) { s with chunkLength := s.chunkStop chunkSize - s.startByte })
  | unsent {data : Bytes} {reply : Reply} {cause : HttpError} (fails : reply.outcome = .error cause) :
      ServerStep chunkSize s .transferring
        (s.carried s.startByte (s.chunkStop chunkSize) (s.chunkStop chunkSize - s.startByte) data
          (s.chunkRequest s.startByte) reply)
        (.failed (.server cause) { s with chunkLength := s.chunkStop chunkSize - s.startByte })
  | sent {data : Bytes} {reply : Reply} {answer : Response} (answered : reply.outcome = .ok answer)
      (more : s.chunkStop chunkSize < s.size) :
      ServerStep chunkSize s .transferring
        (s.carried s.startByte (s.chunkStop chunkSize) (s.chunkStop chunkSize - s.startByte) data
          (s.chunkRequest s.startByte) reply ++
          [.told (.chunkSent s.id (s.chunkStop chunkSize - s.startByte) (s.chunkStop chunkSize))])
        (.next .transferring { s with
          chunkLength := s.chunkStop chunkSize - s.startByte, startByte := s.chunkStop chunkSize })
  /-- The server has all bytes, but its answer to the last chunk is no record. -/
  | unrecorded {data : Bytes} {reply : Reply} {answer : Response} {cause : HttpError}
      (answered : reply.outcome = .ok answer) (last : s.size ≤ s.chunkStop chunkSize)
      (fails : answer.record = .error cause) :
      ServerStep chunkSize s .transferring
        (s.carried s.startByte (s.chunkStop chunkSize) (s.chunkStop chunkSize - s.startByte) data
          (s.chunkRequest s.startByte) reply ++
          [.told (.chunkSent s.id (s.chunkStop chunkSize - s.startByte) (s.chunkStop chunkSize))])
        (.failed (.server cause) { s with chunkLength := s.chunkStop chunkSize - s.startByte })
  | recorded {data : Bytes} {reply : Reply} {answer : Response} {file : Record}
      (answered : reply.outcome = .ok answer) (last : s.size ≤ s.chunkStop chunkSize)
      (record : answer.record = .ok file) :
      ServerStep chunkSize s .transferring
        (s.carried s.startByte (s.chunkStop chunkSize) (s.chunkStop chunkSize - s.startByte) data
          (s.chunkRequest s.startByte) reply ++
          [.told (.chunkSent s.id (s.chunkStop chunkSize - s.startByte) (s.chunkStop chunkSize))])
        (.finished { s with chunkLength := s.chunkStop chunkSize - s.startByte } file)
  /-- The file comes with the answer to the last chunk, so there is none to wait for. -/
  | fileless : ServerStep chunkSize s .completing [] (.failed (.misfit .missingFile) s)

/-- A step of a session whose bytes go straight to storage, in one request. -/
inductive WholeStep (s : Session) (signed : SignedRequest) : Phase → Log UploadEvent → Upshot → Prop
  | unsigned {reply : Reply} {cause : StepError} (fails : reply.signature = .error cause) :
      WholeStep s signed .authorizing [.sent s.offsetRequest reply] (.failed cause s)
  | signed {reply : Reply} {fresh : SignedRequest} (given : reply.signature = .ok fresh) :
      WholeStep s signed .authorizing [.sent s.offsetRequest reply]
        (.next .transferring { s with mode := .single fresh, startByte := 0 })
  | unread {cause : IoError} :
      WholeStep s signed .transferring [.read s.file.source 0 s.size (.error cause)]
        (.failed (.file cause) { s with startByte := 0, chunkLength := s.size })
  | unsupported {data : Bytes} (noMethod : signed.toRequest? = none) :
      WholeStep s signed .transferring [.read s.file.source 0 s.size (.ok data)]
        (.failed (.misfit (.unsupportedMethod signed.method)) { s with startByte := 0, chunkLength := s.size })
  | unsent {data : Bytes} {request : Request} {reply : Reply} {cause : HttpError}
      (sends : signed.toRequest? = some request) (fails : reply.outcome = .error cause) :
      WholeStep s signed .transferring (s.carried 0 s.size s.size data request reply)
        (.failed (.storage cause) { s with startByte := 0, chunkLength := s.size })
  | sent {data : Bytes} {request : Request} {reply : Reply} {answer : Response}
      (sends : signed.toRequest? = some request) (answered : reply.outcome = .ok answer) :
      WholeStep s signed .transferring
        (s.carried 0 s.size s.size data request reply ++ [.told (.chunkSent s.id s.size s.size)])
        (.next .completing { s with startByte := s.size, chunkLength := s.size })
  | uncompleted {reply : Reply} {cause : HttpError}
      (fails : reply.outcome.bind Response.record = .error cause) :
      WholeStep s signed .completing [.sent (completionRequest s) reply] (.failed (.server cause) s)
  | completed {reply : Reply} {file : Record} (record : reply.outcome.bind Response.record = .ok file) :
      WholeStep s signed .completing [.sent (completionRequest s) reply] (.finished s file)

/-- The manifest is sent, as the last thing of an upload in parts. -/
inductive Assembling (s : Session) (m : Multipart) (file : Record) (signed : SignedRequest) :
    Log UploadEvent → Upshot → Prop
  | unsupported (noMethod : signed.toRequest? = none) :
      Assembling s m file signed [] (.failed (.misfit (.unsupportedMethod signed.method)) s)
  | untaken {request : Request} {reply : Reply} {cause : HttpError}
      (sends : signed.toRequest? = some request) (fails : reply.outcome = .error cause) :
      Assembling s m file signed [.sent (request.withBody (.text (Manifest.render m.parts))) reply]
        (.failed (.storage cause) s)
  | taken {request : Request} {reply : Reply} {answer : Response}
      (sends : signed.toRequest? = some request) (answered : reply.outcome = .ok answer) :
      Assembling s m file signed [.sent (request.withBody (.text (Manifest.render m.parts))) reply]
        (.finished s file)

/-- A step of a session whose bytes go straight to storage, in parts. -/
inductive PartStep (s : Session) (m : Multipart) : Phase → Log UploadEvent → Upshot → Prop
  | unheard {reply : Reply} {cause : HttpError} (fails : reply.outcome = .error cause) :
      PartStep s m .authorizing [.sent s.offsetRequest reply] (.failed (.server cause) s)
  /-- Parts are authorized one by one, so nothing is taken from an answer that is for all of them. -/
  | heard {reply : Reply} {answer : Response} (answered : reply.outcome = .ok answer) :
      PartStep s m .authorizing [.sent s.offsetRequest reply] (.next .transferring s)
  | unopenable (closed : m.storageId = none) (noMethod : m.initiate.toRequest? = none) :
      PartStep s m .transferring [] (.failed (.misfit (.unsupportedMethod m.initiate.method)) s)
  | unopened {request : Request} {reply : Reply} {cause : StepError} (closed : m.storageId = none)
      (sends : m.initiate.toRequest? = some request) (fails : reply.storageName = .error cause) :
      PartStep s m .transferring [.sent request reply] (.failed cause s)
  | opened {request : Request} {reply : Reply} {name : String} (closed : m.storageId = none)
      (sends : m.initiate.toRequest? = some request) (named : reply.storageName = .ok name) :
      PartStep s m .transferring [.sent request reply]
        (.next .transferring { s with
          mode := .multipart { m with storageId := some name, tags := [] }, startByte := 0 })
  | unauthorized {name : String} {reply : Reply} {cause : StepError} (opened : m.storageId = some name)
      (fails : s.authorized m reply = .error cause) :
      PartStep s m .transferring [.sent (partRequest s m name (s.wanted m)) reply] (.failed cause s)
  | unread {name : String} {reply : Reply} {signed : SignedRequest} {length : Nat} {cause : IoError}
      (opened : m.storageId = some name) (granted : s.authorized m reply = .ok (signed, length)) :
      PartStep s m .transferring [.sent (partRequest s m name (s.wanted m)) reply,
        .read s.file.source s.startByte (s.startByte + length) (.error cause)] (.failed (.file cause) s)
  | unsupported {name : String} {reply : Reply} {signed : SignedRequest} {length : Nat} {data : Bytes}
      (opened : m.storageId = some name) (granted : s.authorized m reply = .ok (signed, length))
      (noMethod : signed.toRequest? = none) :
      PartStep s m .transferring [.sent (partRequest s m name (s.wanted m)) reply,
        .read s.file.source s.startByte (s.startByte + length) (.ok data)]
        (.failed (.misfit (.unsupportedMethod signed.method)) { s with chunkLength := length })
  | untagged {name : String} {reply : Reply} {signed : SignedRequest} {length : Nat} {data : Bytes}
      {request : Request} {stored : Reply} {cause : StepError}
      (opened : m.storageId = some name) (granted : s.authorized m reply = .ok (signed, length))
      (sends : signed.toRequest? = some request) (fails : stored.partTag = .error cause) :
      PartStep s m .transferring (.sent (partRequest s m name (s.wanted m)) reply ::
        s.carried s.startByte (s.startByte + length) length data request stored)
        (.failed cause { s with chunkLength := length })
  | tagged {name : String} {reply : Reply} {signed : SignedRequest} {length : Nat} {data : Bytes}
      {request : Request} {stored : Reply} {tag : String}
      (opened : m.storageId = some name) (granted : s.authorized m reply = .ok (signed, length))
      (sends : signed.toRequest? = some request) (tagged : stored.partTag = .ok tag) :
      PartStep s m .transferring (.sent (partRequest s m name (s.wanted m)) reply ::
        s.carried s.startByte (s.startByte + length) length data request stored ++
          [.told (.chunkSent s.id length (s.startByte + length))])
        (.next (if s.startByte + length < s.size then .transferring else .completing) { s with
          chunkLength := length, startByte := s.startByte + length,
          mode := .multipart { m with tags := m.tags ++ [tag] } })
  | uncompleted {reply : Reply} {cause : StepError} (pending : m.finalize = none)
      (fails : reply.finalization = .error cause) :
      PartStep s m .completing [.sent (completionRequest s) reply] (.failed cause s)
  | completed {reply : Reply} {file : Record} {signed : SignedRequest} {log : Log UploadEvent}
      {upshot : Upshot} (pending : m.finalize = none) (given : reply.finalization = .ok (file, signed))
      (assembling : Assembling { s with mode := .multipart { m with finalize := some (file, signed) } } m
        file signed log upshot) :
      PartStep s m .completing (.sent (completionRequest s) reply :: log) upshot
  | assembled {file : Record} {signed : SignedRequest} {log : Log UploadEvent} {upshot : Upshot}
      (given : m.finalize = some (file, signed)) (assembling : Assembling s m file signed log upshot) :
      PartStep s m .completing log upshot

/-- **What a step of a session can do**: what happens, and what it comes to. -/
def Transition (chunkSize : ChunkSize) (s : Session) (phase : Phase) (log : Log UploadEvent)
    (upshot : Upshot) : Prop :=
  match s.mode with
  | .server => ServerStep chunkSize s phase log upshot
  | .single signed => WholeStep s signed phase log upshot
  | .multipart m => PartStep s m phase log upshot

/-! ### The steps do no more -/

section Steps

variable {chunkSize : ChunkSize} {s : Session} {m : Multipart} {bound : Nat} {log : Log UploadEvent}

theorem askOffset_honours_step (h : s.mode = .server) : (askOffset s h).Honours .any
    (fun result log => ServerStep chunkSize s .authorizing log result.upshot) [] := by
  refine honours_exchange.2 ⟨trivial, fun reply _ => ?_⟩
  split
  · next read => exact .unlocated (by simp only [Session.landed, read])
  · next read =>
    split
    · next past => exact .unlocated (by simp only [Session.landed, read, if_pos past])
    · next inside => exact .located (by simp only [Session.landed, read, if_neg inside])

theorem sendChunk_honours_step (h : s.mode = .server) : (sendChunk chunkSize s h).Honours .any
    (fun result log => ServerStep chunkSize s .transferring log result.upshot) [] := by
  refine honours_fetch.2 fun outcome _ => ?_
  rcases outcome with cause | data
  · exact .unread
  refine honours_deliver.2 ⟨trivial, fun reply _ => ?_⟩
  rcases answered : reply.outcome with cause | answer
  · exact .unsent answered
  rw [Dialogue.honours_bind, Dialogue.honours_tell]
  split
  · next last =>
    split
    · next fails => exact .unrecorded answered last fails
    · next record => exact .recorded answered last record
  · next more => exact .sent answered (Nat.lt_of_not_le more)

theorem askSignature_honours_step {signed : SignedRequest} (h : ∃ r, s.mode = .single r) :
    (askSignature s h).Honours .any
      (fun result log => WholeStep s signed .authorizing log result.upshot) [] := by
  refine honours_exchange.2 ⟨trivial, fun reply _ => ?_⟩
  split
  · next read => exact .unsigned (by simp only [Reply.signature, read])
  · next read => exact .signed (by simp only [Reply.signature, read])

theorem sendWhole_honours_step {signed : SignedRequest} (h : s.mode = .single signed) :
    (sendWhole s signed h).Honours .any
      (fun result log => WholeStep s signed .transferring log result.upshot) [] := by
  refine honours_fetch.2 fun outcome _ => ?_
  rcases outcome with cause | data
  · exact .unread
  rcases sends : signed.toRequest? with - | request
  · exact .unsupported sends
  refine honours_deliver.2 ⟨trivial, fun reply _ => ?_⟩
  rcases answered : reply.outcome with cause | answer
  · exact .unsent sends answered
  · exact .sent sends answered

theorem completeWhole_honours_step {signed : SignedRequest} :
    (completeWhole s : Dialogue UploadEvent (StepResult bound)).Honours .any
      (fun result log => WholeStep s signed .completing log result.upshot) [] := by
  refine honours_exchange.2 ⟨trivial, fun reply _ => ?_⟩
  split
  · next fails => exact .uncompleted fails
  · next record => exact .completed record

theorem askParts_honours_step (h : s.mode = .multipart m) : (askParts s h).Honours .any
    (fun result log => PartStep s m .authorizing log result.upshot) [] := by
  refine honours_exchange.2 ⟨trivial, fun reply _ => ?_⟩
  split
  · next fails => exact .unheard fails
  · next answered => exact .heard answered

theorem openStorage_honours_step (h : s.mode = .multipart m) (closed : m.storageId = none) :
    (openStorage s m h closed).Honours .any
      (fun result log => PartStep s m .transferring log result.upshot) [] := by
  rw [openStorage]
  rcases sends : m.initiate.toRequest? with - | request
  · exact .unopenable closed sends
  refine honours_exchange.2 ⟨trivial, fun reply _ => ?_⟩
  rcases answered : reply.outcome with cause | answer
  · exact .unopened closed sends (by simp only [Reply.storageName, answered])
  simp only []
  split
  · next read => exact .unopened closed sends (by simp only [Reply.storageName, answered, read])
  · next read => exact .opened closed sends (by simp only [Reply.storageName, answered, read])

theorem sendPart_honours_step {name : String} (h : s.mode = .multipart m) (opened : m.storageId = some name) :
    (sendPart s m name h opened).Honours .any
      (fun result log => PartStep s m .transferring log result.upshot) [] := by
  refine honours_exchange.2 ⟨trivial, fun reply _ => ?_⟩
  split
  · next read => exact .unauthorized opened (by simp only [Session.authorized, read])
  next grant read =>
  split
  · next refused =>
    exact .unauthorized opened (by simp only [Session.authorized, read, Session.wanted, refused])
  next length taken =>
  have granted : s.authorized m reply = .ok (grant.request, length) := by
    simp only [Session.authorized, read, Session.wanted, taken]
  refine honours_fetch.2 fun outcome _ => ?_
  rcases outcome with cause | data
  · exact .unread opened granted
  simp only []
  split
  · next noMethod => exact .unsupported opened granted noMethod
  next request sends =>
  refine honours_deliver.2 ⟨trivial, fun stored _ => ?_⟩
  rcases answered : stored.outcome with cause | answer
  · exact .untagged opened granted sends (by simp only [Reply.partTag, answered])
  simp only []
  split
  · next missing => exact .untagged opened granted sends (by simp only [Reply.partTag, answered, missing])
  next tag found =>
  have tagged : stored.partTag = .ok tag := by simp only [Reply.partTag, answered, found]
  have step := @PartStep.tagged s m name reply grant.request length data request stored tag opened granted sends tagged
  rw [Dialogue.honours_bind, Dialogue.honours_tell]
  split
  · next more =>
    rw [if_pos more] at step
    exact step
  · next last =>
    rw [if_neg last] at step
    exact step

theorem sendManifest_honours_step {file : Record} {signed : SignedRequest} :
    (sendManifest s m file signed : Dialogue UploadEvent (StepResult bound)).Honours .any
      (fun result log => Assembling s m file signed log result.upshot) [] := by
  rw [sendManifest]
  split
  · next noMethod => exact .unsupported noMethod
  next request sends =>
  refine honours_exchange.2 ⟨trivial, fun reply _ => ?_⟩
  rcases answered : reply.outcome with cause | answer
  · exact .untaken sends answered
  · exact .taken sends answered

theorem completeParts_honours_step :
    (completeParts s m : Dialogue UploadEvent (StepResult bound)).Honours .any
      (fun result log => PartStep s m .completing log result.upshot) [] := by
  rw [completeParts]
  split
  · next file signed given => exact sendManifest_honours_step.mono fun _ _ => .assembled given
  next pending =>
  refine honours_exchange.2 ⟨trivial, fun reply _ => ?_⟩
  split
  · next read => exact .uncompleted pending (by simp only [Reply.finalization, read])
  next answer read =>
  split
  · next misfit => exact .uncompleted pending (by simp only [Reply.finalization, read, misfit])
  next file signed taken =>
  have given : reply.finalization = .ok (file, signed) := by simp only [Reply.finalization, read, taken]
  -- the manifest is sent behind the completion, and so is what happens then
  refine Dialogue.honours_any_iff.2 fun log result leads => ?_
  exact .completed pending given (Dialogue.honours_any_iff.1 sendManifest_honours_step log result leads)

/-- **A step does one of the things that a step can do.** -/
theorem step_transition {phase : Phase} {result : StepResult (s.stepsLeft phase)}
    (leads : (step chunkSize s phase).Leads log result) : Transition chunkSize s phase log result.upshot := by
  have honours : (step chunkSize s phase).Honours .any
      (fun result log => Transition chunkSize s phase log result.upshot) [] := by
    unfold Transition
    rcases mode : s.mode with - | signed | m
    · cases phase with
      | authorizing => rw [step_authorizing_server mode]; exact askOffset_honours_step mode
      | transferring => rw [step_transferring_server mode]; exact sendChunk_honours_step mode
      | completing => rw [step_completing_server mode]; exact .fileless
    · cases phase with
      | authorizing => rw [step_authorizing_single mode]; exact askSignature_honours_step ⟨signed, mode⟩
      | transferring => rw [step_transferring_single mode]; exact sendWhole_honours_step mode
      | completing => rw [step_completing_single mode]; exact completeWhole_honours_step
    · cases phase with
      | authorizing => rw [step_authorizing_multipart mode]; exact askParts_honours_step mode
      | transferring =>
        rcases opened : m.storageId with - | name
        · rw [step_opening mode opened]; exact openStorage_honours_step mode opened
        · rw [step_part mode opened]; exact sendPart_honours_step mode opened
      | completing => rw [step_completing_multipart mode]; exact completeParts_honours_step
  exact Dialogue.honours_any_iff.1 honours log result leads

end Steps

/-! ### Step after step -/

/-- What happens from a phase of a session on, until the file is there or a step fails. -/
inductive Sequel (chunkSize : ChunkSize) : Phase → Session → Log UploadEvent → Prop
  | finished {phase : Phase} {s s' : Session} {log : Log UploadEvent} {file : Record}
      (last : Transition chunkSize s phase log (.finished s' file)) : Sequel chunkSize phase s log
  | failed {phase : Phase} {s s' : Session} {log : Log UploadEvent} {cause : StepError}
      (last : Transition chunkSize s phase log (.failed cause s')) : Sequel chunkSize phase s log
  | next {phase phase' : Phase} {s s' : Session} {log more : Log UploadEvent}
      (step : Transition chunkSize s phase log (.next phase' s')) (rest : Sequel chunkSize phase' s' more) :
      Sequel chunkSize phase s (log ++ more)

theorem driveWithin_sequel {chunkSize : ChunkSize} {bound : Nat} {phase : Phase} {s : Session}
    {enough : s.stepsLeft phase < bound} {log : Log UploadEvent} {outcome : Uploader.Outcome}
    (leads : (Uploader.driveWithin chunkSize bound phase s enough).Leads log outcome) :
    Sequel chunkSize phase s log := by
  -- a step that is not the last is followed by a drive within a smaller bound
  induction bound generalizing phase s log with
  | zero => exact absurd enough (Nat.not_lt_zero _)
  | succ bound ih =>
    rw [Uploader.driveWithin, Dialogue.leads_bind] at leads
    obtain ⟨result, first, second, steps, goes, rfl⟩ := leads
    have transition := step_transition steps
    rcases result with ⟨phase', s', fewer⟩ | ⟨s', file⟩ | ⟨cause, s'⟩
    · exact .next transition (ih goes)
    · obtain ⟨rfl, -⟩ := Dialogue.leads_pure.1 goes
      rw [List.append_nil]
      exact .finished transition
    · obtain ⟨rfl, -⟩ := Dialogue.leads_pure.1 goes
      rw [List.append_nil]
      exact .failed transition

end Depot
