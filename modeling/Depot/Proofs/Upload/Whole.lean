import Depot.Proofs.Http.Response
import Depot.Proofs.Upload.Granted
import Depot.Proofs.Upload.Step

/-!
# Uploads in one signed request

An upload whose grant is for the whole file, whatever is answered and however often it is resumed.  What the
exchanges come to is kept in a `Ledger`: which signed request was issued last, whether it has been used, whether
storage has taken the file, and the record of the file once the server has given it.  The ledger decides what
may be asked next (`Ledger.Admits`), how often a call says that the file is stored, and when it returns the
record (`sent_once_per_signature`).

Between two steps the session has the signed request of the ledger (`Underway`), and the phase says the rest:
a session that transfers has a request that has not been used, and a session completes exactly when storage has
taken the file.  That is why a transfer that failed is resumed with a new signature.
-/

namespace Depot.WholeUpload

open Dialogue (Environment Exchange Log exchanges tally tally_read tally_sent tally_sent_told tally_told)
open Route (asksLanded isCompletion)

/-! ### Ledgers -/

/-- What the exchanges of an upload come to. -/
structure Ledger where
  /-- The signed request that was issued last. -/
  issued : SignedRequest
  /-- It has not been sent. -/
  fresh : Bool
  /-- Storage has taken the file. -/
  stored : Bool
  /-- How often the server has been told so. -/
  reported : Nat
  /-- The record of the file, once the server has given it. -/
  completed : Option Record

namespace Ledger

/-- The ledger after one more exchange. -/
def add (l : Ledger) (x : Exchange) : Ledger :=
  if x.request.isApiRequest then
    if asksLanded x.request then
      match x.reply.outcome.bind (Response.read SignedRequest.read?) with
      | .ok signed => { l with issued := signed, fresh := true }
      | .error _ => l
    else if isCompletion x.request then
      match x.reply.outcome.bind Response.record with
      | .ok file => { l with reported := l.reported + 1, completed := some file }
      | .error _ => { l with reported := l.reported + 1 }
    else l
  else
    match x.reply.outcome with
    | .ok _ => { l with fresh := false, stored := true }
    | .error _ => { l with fresh := false }

/-- The ledger at the beginning of an upload with this grant. -/
def start (grant : StorageGrant) : Ledger := ⟨grant.request, true, false, 0, none⟩

/-- What may be asked next. -/
structure Admits (l : Ledger) (content : Bytes) (request : Request) : Prop where
  /-- Storage is sent the whole file, with the signed request that was issued last, and that only once. -/
  payload : request.isApiRequest = false → l.fresh = true ∧
    ∃ signed, l.issued.toRequest? = some signed ∧ request = carrying signed content
  /-- Once storage has taken the file, the server is told so until it answers, and nothing else is asked. -/
  stored : l.stored = true → isCompletion request = true ∧ l.completed = none
  completion : isCompletion request = true → l.stored = true

/-! What one more exchange adds. -/

section Adding

variable {l : Ledger} {request : Request} {reply : Reply}

theorem add_signature {signed : SignedRequest} (api : request.isApiRequest = true)
    (asks : asksLanded request = true)
    (issued : reply.outcome.bind (Response.read SignedRequest.read?) = .ok signed) :
    l.add ⟨request, reply⟩ = { l with issued := signed, fresh := true } := by
  simp only [add, api, asks, issued, if_true]

theorem add_no_signature {cause : HttpError} (api : request.isApiRequest = true)
    (asks : asksLanded request = true)
    (none : reply.outcome.bind (Response.read SignedRequest.read?) = .error cause) :
    l.add ⟨request, reply⟩ = l := by
  simp only [add, api, asks, none, if_true]

theorem add_payload {answer : Response} (outside : request.isApiRequest = false)
    (taken : reply.outcome = .ok answer) :
    l.add ⟨request, reply⟩ = { l with fresh := false, stored := true } := by
  simp only [add, outside, taken, Bool.false_eq_true, if_false]

theorem add_no_payload {cause : HttpError} (outside : request.isApiRequest = false)
    (refused : reply.outcome = .error cause) : l.add ⟨request, reply⟩ = { l with fresh := false } := by
  simp only [add, outside, refused, Bool.false_eq_true, if_false]

theorem add_completion {file : Record} {s : Session}
    (given : reply.outcome.bind Response.record = .ok file) :
    l.add ⟨completionRequest s, reply⟩ =
      { l with reported := l.reported + 1, completed := some file } := by
  have api : (completionRequest s).isApiRequest = true := rfl
  simp only [add, api, asksLanded_completionRequest, isCompletion_completionRequest, given, if_true,
    Bool.false_eq_true, if_false]

theorem add_no_completion {cause : HttpError} {s : Session}
    (none : reply.outcome.bind Response.record = .error cause) :
    l.add ⟨completionRequest s, reply⟩ = { l with reported := l.reported + 1 } := by
  have api : (completionRequest s).isApiRequest = true := rfl
  simp only [add, api, asksLanded_completionRequest, isCompletion_completionRequest, none, if_true,
    Bool.false_eq_true, if_false]

/-- The initiation is no matter of the ledger. -/
theorem add_initiation (target : UploadTarget) (file : UploadFile) :
    l.add ⟨initiationRequest target file, reply⟩ = l := by
  cases target <;>
    simp [add, initiationRequest, Request.isApiRequest, asksLanded, isCompletion]

end Adding

end Ledger

/-! ### The invariant -/

variable {target : UploadTarget} {file : UploadFile} {content : Bytes} {grant : StorageGrant}
  {earlier log : Log UploadEvent} {s : Session}

/-- What a log comes to. -/
abbrev ledger (grant : StorageGrant) (log : Log UploadEvent) : Ledger := tally Ledger.add (.start grant) log

/-- The session in a call that began with ledger `k`, where the ledger has come to `l`. -/
structure Underway (file : UploadFile) (s : Session) (k l : Ledger) : Prop where
  file : s.file = file
  mode : s.mode = .single l.issued
  known : k.completed = none
  uncompleted : l.completed = none

/-- The session can take the step of this phase. -/
structure Ready (file : UploadFile) (phase : Phase) (s : Session) (k l : Ledger) : Prop
    extends Underway file s k l where
  stored_iff : l.stored = true ↔ phase = .completing
  fresh : phase = .transferring → l.fresh = true
  reported : l.reported = k.reported

/-- The session was left by a step of this phase that failed. -/
structure Stopped (file : UploadFile) (phase : Phase) (s : Session) (k l : Ledger) : Prop
    extends Underway file s k l where
  stored_iff : l.stored = true ↔ phase = .completing
  reported : l.reported = k.reported + if l.stored then 1 else 0

/-- The server has given this record. -/
structure Arrived (record : Record) (k l : Ledger) : Prop where
  known : k.completed = none
  stored : l.stored = true
  completed : l.completed = some record
  reported : l.reported = k.reported + 1

/-- The chronicle of a call that began after `earlier`. -/
def since (file : UploadFile) (grant : StorageGrant) (earlier : Log UploadEvent) : Chronicle where
  ready phase s log := Ready file phase s (ledger grant earlier) (ledger grant log)
  stopped phase s log := Stopped file phase s (ledger grant earlier) (ledger grant log)
  arrived _ record log := Arrived record (ledger grant earlier) (ledger grant log)

/-- What may be asked, by the ledger. -/
abbrev pact (target : UploadTarget) (file : UploadFile) (content : Bytes) (grant : StorageGrant) :=
  granted target file content grant fun past => (ledger grant past).Admits content

variable {k l : Ledger} {phase : Phase}

/-- A call that was stopped leaves what the next one needs. -/
theorem Stopped.resumable (stopped : Stopped file phase s k l) :
    Ready file (s.resumeAt phase) s l l where
  file := stopped.file
  mode := stopped.mode
  known := stopped.uncompleted
  uncompleted := stopped.uncompleted
  stored_iff := by
    rw [stopped.stored_iff]
    cases phase <;> simp [Session.resumeAt, stopped.mode]
  fresh := by
    cases phase <;> simp [Session.resumeAt, stopped.mode]
  reported := rfl

namespace Ready

theorem unstored (ready : Ready file phase s k l) (uncompleting : phase ≠ .completing) : l.stored = false := by
  rw [← Bool.not_eq_true, ready.stored_iff]
  exact uncompleting

/-! What a step leaves. -/

/-- A step that neither sends bytes nor tells that the file is stored leaves the session as it was. -/
theorem stopped (ready : Ready file phase s k l) (uncompleting : phase ≠ .completing) :
    Stopped file phase s k l where
  toUnderway := ready.toUnderway
  stored_iff := ready.stored_iff
  reported := by
    rw [ready.unstored uncompleting]
    exact ready.reported

/-- There is a new signature. -/
theorem renewed (ready : Ready file .authorizing s k l) (signed : SignedRequest) :
    Ready file .transferring { s with mode := .single signed, startByte := 0 } k
      { l with issued := signed, fresh := true } where
  file := ready.file
  mode := rfl
  known := ready.known
  uncompleted := ready.uncompleted
  stored_iff := by simp [ready.unstored]
  fresh := fun _ => rfl
  reported := ready.reported

/-- How far a session has come is no matter of the ledger. -/
theorem at_byte (ready : Ready file phase s k l) (startByte length : Nat) :
    Ready file phase { s with startByte := startByte, chunkLength := length } k l :=
  { ready with }

/-- Storage has not taken the file, and the signature is used up. -/
theorem refused (ready : Ready file .transferring s k l) :
    Stopped file .transferring s k { l with fresh := false } :=
  { ready.stopped (by simp) with }

/-- Storage has taken the file. -/
theorem taken (ready : Ready file .transferring s k l) (startByte : Nat) :
    Ready file .completing { s with startByte := startByte } k { l with fresh := false, stored := true } where
  file := ready.file
  mode := ready.mode
  known := ready.known
  uncompleted := ready.uncompleted
  stored_iff := by simp
  fresh := by simp
  reported := ready.reported

/-- The server has not answered that the file is stored. -/
theorem unanswered (ready : Ready file .completing s k l) :
    Stopped file .completing s k { l with reported := l.reported + 1 } where
  toUnderway := { ready.toUnderway with }
  stored_iff := ready.stored_iff
  reported := by
    have stored : l.stored = true := ready.stored_iff.2 rfl
    show l.reported + 1 = k.reported + if l.stored then 1 else 0
    rw [stored, ready.reported, if_pos rfl]

/-- The server has given the record. -/
theorem arrived (ready : Ready file .completing s k l) (record : Record) :
    Arrived record k { l with reported := l.reported + 1, completed := some record } where
  known := ready.known
  stored := ready.stored_iff.2 rfl
  completed := rfl
  reported := congrArg (· + 1) ready.reported

/-! What a step may ask. -/

theorem admits_signature (ready : Ready file .authorizing s k l) :
    l.Admits content s.offsetRequest where
  payload := by rintro ⟨⟩
  stored := by simp [ready.unstored]
  completion := by simp

theorem admits_payload (ready : Ready file .transferring s k l) {request : Request}
    (sends : l.issued.toRequest? = some request) : l.Admits content (carrying request content) where
  payload := fun _ => ⟨ready.fresh rfl, request, sends, rfl⟩
  stored := by simp [ready.unstored]
  completion := by
    have outside : (carrying request content).isApiRequest = false := (SignedRequest.sent_outside sends).1
    simp [Route.of_outside outside]

theorem admits_completion (ready : Ready file .completing s k l) :
    l.Admits content (completionRequest s) where
  payload := by rintro ⟨⟩
  stored := fun _ => ⟨isCompletion_completionRequest s, ready.uncompleted⟩
  completion := fun _ => ready.stored_iff.2 rfl

end Ready

/-! ### The steps -/

/-- **A signature is asked for** before storage has taken the file, and then there is a new one. -/
theorem askSignature_honours (h : ∃ r, s.mode = .single r)
    (ready : Ready file .authorizing s (ledger grant earlier) (ledger grant log)) :
    (askSignature s h).Honours (pact target file content grant)
      ((since file grant earlier).AfterStep .authorizing) log := by
  have api : s.offsetRequest.isApiRequest = true := rfl
  refine honours_exchange.2 ⟨.inr ready.admits_signature, fun reply _ => ?_⟩
  split
  · next cause none =>
    show Stopped file .authorizing s _ (ledger grant (log ++ [.sent s.offsetRequest reply]))
    simp only [tally_sent, Ledger.add_no_signature api (asksLanded_offsetRequest s) none]
    exact ready.stopped (by simp)
  · next signed issued =>
    show Ready file .transferring _ _ (ledger grant (log ++ [.sent s.offsetRequest reply]))
    simp only [tally_sent, Ledger.add_signature api (asksLanded_offsetRequest s) issued]
    exact ready.renewed signed

/-- **The file is sent whole**, with a request that has not been sent before. -/
theorem sendWhole_honours {signed : SignedRequest} (h : s.mode = .single signed)
    (sized : file.source.size = content.length)
    (ready : Ready file .transferring s (ledger grant earlier) (ledger grant log)) :
    (sendWhole s signed h).Honours (pact target file content grant)
      ((since file grant earlier).AfterStep .transferring) log := by
  -- what the session has is what was issued last, so the ledger can be asked for it
  obtain rfl : (ledger grant log).issued = signed := TransferMode.single.inj (ready.mode.symm.trans h)
  have sending := ready.at_byte 0 s.size
  refine honours_fetch.2 fun outcome relied => ?_
  rcases outcome with cause | data
  · show Stopped file .transferring _ _ (ledger grant (log ++ [.read ..]))
    simp only [tally_read]
    exact sending.stopped (by simp)
  obtain rfl : data = content := by
    rw [ready.file] at relied
    have all := slice_of_relies relied
    rwa [Session.size, ready.file, UploadFile.size, sized, ByteSource.slice_all] at all
  rcases sends : (ledger grant log).issued.toRequest? with - | request
  · show Stopped file .transferring _ _ (ledger grant (log ++ [.read ..]))
    simp only [tally_read]
    exact sending.stopped (by simp)
  have outside : (carrying request data).isApiRequest = false := (SignedRequest.sent_outside sends).1
  have admitted : (ledger grant (log ++ [.read s.file.source 0 s.size (.ok data)])).Admits data
      (carrying request data) := by
    simp only [tally_read]
    exact ready.admits_payload sends
  refine honours_deliver.2 ⟨.inr admitted, fun reply _ => ?_⟩
  rcases answered : reply.outcome with cause | answer
  · show Stopped file .transferring _ _ (ledger grant (_ ++ _ :: _))
    simp only [tally_sent_told, tally_read, Ledger.add_no_payload outside answered]
    exact sending.refused
  · rw [Dialogue.honours_bind, Dialogue.honours_tell]
    show Ready file .completing _ _ (ledger grant (_ ++ [.told _]))
    simp only [tally_told, tally_sent_told, tally_read, Ledger.add_payload outside answered]
    exact sending.taken s.size

/-- **The server is told that the file is stored**, once in a call. -/
theorem completeWhole_honours {bound : Nat}
    (ready : Ready file .completing s (ledger grant earlier) (ledger grant log)) :
    (completeWhole s : Dialogue UploadEvent (StepResult bound)).Honours (pact target file content grant)
      ((since file grant earlier).AfterStep .completing) log := by
  refine honours_exchange.2 ⟨.inr ready.admits_completion, fun reply _ => ?_⟩
  split
  · next cause none =>
    show Stopped file .completing s _ (ledger grant (log ++ [.sent ..]))
    simp only [tally_sent, Ledger.add_no_completion none]
    exact ready.unanswered
  · next record given =>
    show Arrived record _ (ledger grant (log ++ [.sent ..]))
    simp only [tally_sent, Ledger.add_completion given]
    exact ready.arrived record

/-- **Every step keeps the chronicle**, of whatever call. -/
theorem kept (sized : file.source.size = content.length) (earlier : Log UploadEvent)
    (chunkSize : ChunkSize) :
    (since file grant earlier).KeptBy (pact target file content grant) chunkSize := by
  intro phase s log ready
  cases phase with
  | authorizing =>
    rw [step_authorizing_single ready.mode]
    exact askSignature_honours ⟨_, ready.mode⟩ ready
  | transferring =>
    rw [step_transferring_single ready.mode]
    exact sendWhole_honours ready.mode sized ready
  | completing =>
    rw [step_completing_single ready.mode]
    exact completeWhole_honours ready

/-! ### Whole uploads -/

theorem upkeep (sized : file.source.size = content.length) (whole : grant.chunked = false) :
    Chronicle.Upkeep (pact target file content grant) (since file grant) target file where
  steps := kept sized
  initiation := .inl ⟨rfl, rfl⟩
  opened := by
    intro chunkSize id reply relied
    obtain ⟨s, opened, sameFile, mode⟩ :=
      (grants_of_relies relied).opens_single chunkSize id target file whole
    refine ⟨.transferring, s, opened, ?_⟩
    show Ready file .transferring s (ledger grant []) (ledger grant ([] ++ [.sent ..]))
    simp only [tally_sent, Ledger.add_initiation]
    exact
      { file := sameFile
        mode := mode
        known := rfl
        uncompleted := rfl
        stored_iff := by simp [tally, Ledger.start]
        fresh := fun _ => rfl
        reported := rfl }
  resumable := by
    intro earlier phase s log e stopped
    show Ready file _ s (ledger grant (log ++ [.told e])) (ledger grant (log ++ [.told e]))
    simp only [tally_told]
    exact Stopped.resumable stopped

/-- What becomes of a call, by the ledgers before it and behind it. -/
structure Settled {σ : Type} (grant : StorageGrant) (last : Uploader.Called σ) : Prop where
  /-- The server is told once that the file is stored, unless that is not so or had been answered before. -/
  reported : (ledger grant last.log).reported = (ledger grant last.earlier).reported +
    if (ledger grant last.log).stored ∧ (ledger grant last.earlier).completed = none then 1 else 0
  /-- The call returns a record exactly when the server gives it. -/
  ok_iff : ∀ record, last.result.value.1 = .ok record ↔ (ledger grant last.log).stored = true ∧
    (ledger grant last.earlier).completed = none ∧ (ledger grant last.log).completed = some record

/-- The record that an earlier call has returned. -/
theorem completed_of_between {u : Uploader} (between : Chronicle.Between (since file grant) u log)
    (state : u.state = .complete) : ∃ record, (ledger grant log).completed = some record := by
  cases between with
  | complete _ arrived =>
    simp only [tally_told]
    exact ⟨_, arrived.completed⟩
  | suspended suspended => cases state.symm.trans suspended

theorem reported_and_ok_iff {after : Uploader.After Record}
    (ended : Chronicle.CallEnded (since file grant) earlier after log) :
    ((ledger grant log).reported = (ledger grant earlier).reported +
      if (ledger grant log).stored ∧ (ledger grant earlier).completed = none then 1 else 0) ∧
    ∀ record, after.1 = .ok record ↔ (ledger grant log).stored = true ∧
      (ledger grant earlier).completed = none ∧ (ledger grant log).completed = some record := by
  cases ended with
  | driven ended =>
    cases ended with
    | finished arrived =>
      simp only [tally_told]
      refine ⟨?_, fun record => ?_⟩
      · rw [if_pos ⟨arrived.stored, arrived.known⟩]
        exact arrived.reported
      · simp [arrived.stored, arrived.known, arrived.completed]
    | suspended stopped =>
      simp only [tally_told]
      refine ⟨?_, fun record => ?_⟩
      · rw [stopped.reported]
        simp [stopped.known]
      · simp [stopped.uncompleted]
  | refused state between =>
    obtain ⟨record, completed⟩ := completed_of_between between state
    exact ⟨by simp [completed], fun record => by simp [completed]⟩

/-! ### A server and a storage in plain words -/

/-- A signed request as it is written; one of its header fields says when it was signed. -/
def plainRequest (turn : Nat) : Json :=
  .object [("headers", .object [("x-turn", .str (toString turn))]), ("method", .str "put"),
    ("url", .str "https://s/k")]

def plainOpening : Record := ⟨[("_id", .str "u1"), ("behavior", .str "s3"),
  ("s3", .object [("chunked", .bool false), ("request", plainRequest 0)])], by decide +kernel⟩

def plainFile : Record := ⟨[("_id", .str "f1"), ("_modelType", .str "file")], by decide +kernel⟩

/-- The server signs anew whenever it is asked, and storage takes everything. -/
def plain : Peer Nat := fun request turn =>
  let answer : Response :=
    if !request.isApiRequest then .new 200
    else if asksLanded request then .ofJson (plainRequest turn)
    else if isCompletion request then .ofJson plainFile.toJson
    else .ofJson plainOpening.toJson
  (.ok answer, turn + 1)

/-- The answer to the first attempt is lost, and so is the first completion. -/
def rough : Schedule := { Schedule.calm with
  exchange := fun n => if n = 1 ∨ n = 4 then .replyLost (.connection "gone") else .carried }

def plainGrant : StorageGrant :=
  ⟨false, none, ⟨"put", "https://s/k", Dictionary.empty.insert "x-turn" "0"⟩⟩

theorem plain_initiationRequest (target : UploadTarget) (file : UploadFile) (turn : Nat) :
    plain (initiationRequest target file) turn = (.ok (.ofJson plainOpening.toJson), turn + 1) := by
  cases target <;> simp [plain, initiationRequest, Request.isApiRequest, asksLanded, isCompletion]

theorem grants_rough (target : UploadTarget) (file : UploadFile) (contents : String → Option Bytes)
    (turn : Nat) :
    ((rough.environment plain contents).send (initiationRequest target file) (.start turn)).1.Grants
      plainGrant := by
  have answer : ((rough.environment plain contents).send (initiationRequest target file)
      (.start turn)).1.outcome = (plain (initiationRequest target file) turn).1 := rfl
  have body : (Response.ofJson plainOpening.toJson).record = .ok plainOpening :=
    Response.record_ofJson (by decide +kernel)
  refine ⟨plainOpening, ⟨"u1", some "s3", some plainGrant, none, none⟩, ?_, ?_, ?_, rfl, rfl⟩
  · rw [answer, plain_initiationRequest]
    simp only [Except.bind]
    exact body
  · decide +kernel
  · decide +kernel

/-- **A signature is used once, and the file is not sent again.**  Whatever is answered and however often the
upload is resumed, everything that is asked after the initiation is admitted by the ledger of the exchanges
before it, and the last call settles as its ledgers say. -/
theorem sent_once_per_signature {σ : Type} {env : Environment σ} {t : σ}
    (reads : env.Reads file.source content)
    (grants : (env.send (initiationRequest target file) t).1.Grants grant) (whole : grant.chunked = false)
    (u : Uploader) (resumes : Nat) :
    let last := u.lastCall env target file t resumes
    (∀ before request reply after, last.log = before ++ .sent request reply :: after →
      (exchanges before = [] ∧ request = initiationRequest target file) ∨
        (ledger grant before).Admits content request) ∧
      Settled grant last := by
  intro last
  have maintained : Chronicle.Upkeep (pact target file content grant) (since file grant) target file :=
    upkeep reads.size_eq whole
  have relied : Dialogue.Follows (pact target file content grant).relies []
    ((u.insist target file resumes).run env t).log := follows_granted reads grants u resumes
  obtain ⟨admitted, -⟩ := (Chronicle.insist_honours (u := u) maintained resumes).run env t relied
  obtain ⟨reported, ok_iff⟩ := reported_and_ok_iff (Uploader.lastCall_ended maintained relied)
  refine ⟨?_, reported, ok_iff⟩
  rw [Uploader.log_lastCall, Dialogue.follows_iff] at admitted
  intro before request reply after log
  exact admitted before _ after log

/-- Three bytes, sent twice with two signatures; the third call only tells the server that they are stored. -/
theorem sent_once_per_signature_rough :
    let last := (Uploader.new (.atLeastOne 2)).lastCall (rough.environment plain fun _ => none)
      (.folder "p") (.ofBytes "a" [1, 2, 3]) (.start 0) 2
    last.result.value.1 = .ok plainFile ∧ (ledger plainGrant last.earlier).reported = 1 ∧
      (ledger plainGrant last.log).reported = 2 := by
  intro last
  have holds : ByteSource.Holds (fun _ => none) (UploadFile.ofBytes "a" [1, 2, 3]).source [1, 2, 3] := rfl
  have settled : Settled plainGrant last :=
    (sent_once_per_signature (holds.reads_over rough plain) (grants_rough _ _ _ _) rfl _ 2).2
  have once : (ledger plainGrant last.earlier).reported = 1 := by decide +kernel
  have unknown : (ledger plainGrant last.earlier).completed = none := by decide +kernel
  have stored : (ledger plainGrant last.log).stored = true := by decide +kernel
  have given : (ledger plainGrant last.log).completed = some plainFile := by decide +kernel
  refine ⟨(settled.ok_iff plainFile).2 ⟨stored, unknown, given⟩, once, ?_⟩
  rw [settled.reported, once, if_pos ⟨stored, unknown⟩]

end Depot.WholeUpload
