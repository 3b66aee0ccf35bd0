import Depot.Proofs.Upload.Reached
import Depot.Proofs.Upload.ThroughStorage

/-!
# What every session keeps to

`Session.Sound` is the invariant of sessions between two steps: where the session goes on lies in the file, and
the ways in which bytes travel each have their own account of it.  A request in one piece has sent nothing or
all; parts are numbered from one, with a tag each, and where the session goes on is the sum of their lengths.

One step keeps it (`Transition.sound`), for each way in which bytes travel, and so every reached session does
(`Session.Reached.sound`).  Nothing outside of a file is ever asked of it, since a read goes from where the
session stands up to no more than the end.
-/

namespace Depot

open Dialogue (Environment Log events)

/-! ### Reading a log -/

/-- The numbers of bytes that were acknowledged, one after the other. -/
def acknowledgements (log : Log UploadEvent) : List Nat :=
  (events log).filterMap fun
    | .chunkSent _ bytes _ => some bytes
    | _ => none

/-- Only this file was read, and nothing outside of it was asked for. -/
def ReadsInside (file : UploadFile) (log : Log UploadEvent) : Prop :=
  ∀ source start stop outcome, .read source start stop outcome ∈ log →
    source = file.source ∧ start ≤ stop ∧ stop ≤ file.size

section Reading

variable {log more : Log UploadEvent} {s : Session} {file : UploadFile} {request : Request} {reply : Reply}
  {start stop length : Nat} {data : Bytes}

@[simp] theorem acknowledgements_nil : acknowledgements [] = [] := rfl

@[simp] theorem acknowledgements_append :
    acknowledgements (log ++ more) = acknowledgements log ++ acknowledgements more := by
  simp [acknowledgements]

@[simp] theorem acknowledgements_sent :
    acknowledgements (.sent request reply :: log) = acknowledgements log := rfl

@[simp] theorem acknowledgements_read {source : ByteSource} {outcome : Except IoError Bytes} :
    acknowledgements (.read source start stop outcome :: log) = acknowledgements log := rfl

@[simp] theorem acknowledgements_chunkSent {id : SessionId} {bytes acknowledged : Nat} :
    acknowledgements (.told (.chunkSent id bytes acknowledged) :: log) = bytes :: acknowledgements log := rfl

@[simp] theorem acknowledgements_error {id : SessionId} {message : String} {status : Option Nat} :
    acknowledgements (.told (.error id message status) :: log) = acknowledgements log := rfl

/-- What is told of bytes on their way acknowledges none. -/
@[simp] theorem acknowledgements_carried :
    acknowledgements (s.carried start stop length data request reply) = [] := by
  have told : acknowledgements ((reports s start length reply.progress).map .told) = [] := by
    rw [acknowledgements, Dialogue.events_map_told]
    simp [reports]
  simp [Session.carried, told]

@[simp] theorem readsInside_nil : ReadsInside file [] := by
  intro source start stop outcome member
  cases member

@[simp] theorem readsInside_append :
    ReadsInside file (log ++ more) ↔ ReadsInside file log ∧ ReadsInside file more := by
  constructor
  · exact fun h => ⟨fun _ _ _ _ member => h _ _ _ _ (List.mem_append_left _ member),
      fun _ _ _ _ member => h _ _ _ _ (List.mem_append_right _ member)⟩
  · rintro ⟨first, second⟩ source start stop outcome member
    rcases List.mem_append.1 member with member | member
    · exact first source start stop outcome member
    · exact second source start stop outcome member

@[simp] theorem readsInside_sent : ReadsInside file (.sent request reply :: log) ↔ ReadsInside file log := by
  simp [ReadsInside]

@[simp] theorem readsInside_told {e : UploadEvent} :
    ReadsInside file (.told e :: log) ↔ ReadsInside file log := by
  simp [ReadsInside]

@[simp] theorem readsInside_read {source : ByteSource} {outcome : Except IoError Bytes} :
    ReadsInside file (.read source start stop outcome :: log) ↔
      (source = file.source ∧ start ≤ stop ∧ stop ≤ file.size) ∧ ReadsInside file log := by
  constructor
  · intro h
    exact ⟨h _ _ _ _ List.mem_cons_self, fun _ _ _ _ member => h _ _ _ _ (List.mem_cons_of_mem _ member)⟩
  · rintro ⟨here, later⟩ _ _ _ _ member
    rcases List.mem_cons.1 member with same | member
    · cases same
      exact here
    · exact later _ _ _ _ member

@[simp] theorem readsInside_carried : ReadsInside file (s.carried start stop length data request reply) ↔
    s.file.source = file.source ∧ start ≤ stop ∧ stop ≤ file.size := by
  have told (events : List UploadEvent) : ReadsInside file (events.map .told) := by
    intro source start stop outcome member
    simp at member
  simp [Session.carried, told]

end Reading

/-! ### The invariant -/

/-- All bytes have been sent. -/
@[simp] def Standing.sent : Standing → Bool
  | underway .completing | stopped .completing | finished _ => true
  | _ => false

/-- The account of a session whose bytes go up in parts: it goes on at `start` in a file of `size` bytes, and so
many bytes have been acknowledged each time. -/
structure Multipart.Sound (m : Multipart) (sent : Bool) (start size : Nat) (acknowledged : List Nat) : Prop where
  partSize : 1 ≤ m.partSize.bytes
  keys : m.parts.map Prod.fst = List.range' 1 (m.nextPart - 1)
  /-- Every part that is listed was acknowledged, and no other. -/
  listed : m.parts.length = acknowledged.length
  total : start = acknowledged.foldl (· + ·) 0
  unopened : m.storageId = none → m.nextPart = 1 ∧ m.parts = [] ∧ start = 0
  complete : sent = true → 1 < m.nextPart ∧ start = size
  pending : sent = false → m.finalize = none
  finalized : m.finalize ≠ none → 1 < m.nextPart ∧ start = size

/-- **What a session keeps to** between two steps, with what has happened since it was opened. -/
structure Session.Sound (standing : Standing) (s : Session) (log : Log UploadEvent) : Prop where
  within : s.startByte ≤ s.size
  reads : ReadsInside s.file log
  /-- Parts are authorized one by one, and not beforehand. -/
  authorizing : standing.phase? = some .authorizing → ∀ m, s.mode ≠ .multipart m
  /-- Bytes that go through the server are complete with the record in the answer to the last chunk; all others
  are completed once they have all been sent. -/
  completing : standing.phase? = some .completing → s.mode ≠ .server ∧ s.startByte = s.size
  single : ∀ signed, s.mode = .single signed → s.startByte = if standing.sent then s.size else 0
  multipart : ∀ m, s.mode = .multipart m → m.Sound standing.sent s.startByte s.size (acknowledgements log)

theorem Standing.sent_of_completing {standing : Standing} (h : standing.phase? = some .completing) :
    standing.sent = true := by
  cases standing <;> cases h <;> rfl

theorem Multipart.parts_keys (m : Multipart) : m.parts.map Prod.fst = List.range' 1 (m.nextPart - 1) := by
  apply List.ext_getElem
  · simp [parts, nextPart]
  · intro i inParts inRange
    simp [parts, Nat.add_comm]

namespace Session.Sound

variable {standing : Standing} {s : Session} {log : Log UploadEvent}

/-! By the way in which bytes travel. -/

theorem of_server (mode : s.mode = .server) (within : s.startByte ≤ s.size) (reads : ReadsInside s.file log)
    (underway : standing.phase? ≠ some .completing) : s.Sound standing log where
  within := within
  reads := reads
  authorizing := by simp [mode]
  completing := fun completing => absurd completing underway
  single := by simp [mode]
  multipart := by simp [mode]

theorem of_single {signed : SignedRequest} (mode : s.mode = .single signed) (reads : ReadsInside s.file log)
    (start : s.startByte = if standing.sent then s.size else 0) : s.Sound standing log where
  within := by
    rw [start]
    split <;> omega
  reads := reads
  authorizing := by simp [mode]
  completing := by
    intro completing
    rw [start, if_pos (Standing.sent_of_completing completing)]
    exact ⟨by simp [mode], rfl⟩
  single := fun _ _ => start
  multipart := by simp [mode]

theorem of_multipart {m : Multipart} (acknowledged : List Nat) (mode : s.mode = .multipart m)
    (within : s.startByte ≤ s.size) (reads : ReadsInside s.file log)
    (underway : standing.phase? ≠ some .authorizing) (told : acknowledgements log = acknowledged)
    (parts : m.Sound standing.sent s.startByte s.size acknowledged) : s.Sound standing log where
  within := within
  reads := reads
  authorizing := fun authorizing => absurd authorizing underway
  completing := fun completing =>
    ⟨by simp [mode], (parts.complete (Standing.sent_of_completing completing)).2⟩
  single := by simp [mode]
  multipart := by
    intro m' mode'
    cases mode.symm.trans mode'
    rw [told]
    exact parts

end Session.Sound

/-! ### One step -/

section Steps

variable {chunkSize : ChunkSize} {s : Session} {m : Multipart} {phase : Phase} {log more : Log UploadEvent}
  {upshot : Upshot}

theorem landed_le {reply : Reply} {offset : Nat} (landed : s.landed reply = .ok offset) : offset ≤ s.size := by
  unfold Session.landed at landed
  split at landed
  · cases landed
  · split at landed
    · cases landed
    · cases landed
      omega

/-- A part ends in the file, and a part of a file that is not at its end has a byte at least. -/
theorem authorized_bounds {reply : Reply} {signed : SignedRequest} {length : Nat}
    (granted : s.authorized m reply = .ok (signed, length)) :
    length ≤ s.size - s.startByte ∧ (s.startByte < s.size → 0 < length) := by
  unfold Session.authorized at granted
  split at granted
  · cases granted
  next grant _ =>
  split at granted
  · cases granted
  next taken =>
  cases granted
  have := m.partSize.positive
  have wanted_le : s.wanted m ≤ s.size - s.startByte := by
    unfold Session.wanted
    omega
  refine ⟨DirectStorage.grantedLength_le taken wanted_le, fun more => ?_⟩
  refine grantedLength_pos taken ?_ (by omega)
  unfold Session.wanted
  omega

theorem authorized_inside {reply : Reply} {signed : SignedRequest} {length : Nat} (within : s.startByte ≤ s.size)
    (granted : s.authorized m reply = .ok (signed, length)) : s.startByte + length ≤ s.size := by
  have room := (authorized_bounds granted).1
  omega

theorem chunkStop_bounds (chunkSize : ChunkSize) (within : s.startByte ≤ s.size) :
    s.startByte ≤ s.chunkStop chunkSize ∧ s.chunkStop chunkSize ≤ s.size := by
  unfold Session.chunkStop
  omega

/-! What is asked of the file. -/

theorem ServerStep.reads (within : s.startByte ≤ s.size) (h : ServerStep chunkSize s phase more upshot) :
    ReadsInside s.file more := by
  have bounds : s.startByte ≤ s.chunkStop chunkSize ∧ s.chunkStop chunkSize ≤ s.file.size :=
    chunkStop_bounds chunkSize within
  cases h <;> simp [bounds]

theorem WholeStep.reads {signed : SignedRequest} (h : WholeStep s signed phase more upshot) :
    ReadsInside s.file more := by
  cases h <;> simp [Session.size]

theorem Assembling.reads {file : Record} {signed : SignedRequest} {asked : UploadFile}
    (h : Assembling s m file signed more upshot) : ReadsInside asked more := by
  cases h <;> simp

theorem PartStep.reads (within : s.startByte ≤ s.size) (h : PartStep s m phase more upshot) :
    ReadsInside s.file more := by
  have bounds {reply : Reply} {signed : SignedRequest} {length : Nat}
      (granted : s.authorized m reply = .ok (signed, length)) : s.startByte + length ≤ s.file.size :=
    authorized_inside within granted
  cases h with
  | unread _ granted => simp [bounds granted]
  | unsupported _ granted _ => simp [bounds granted]
  | untagged _ granted _ _ => simp [bounds granted]
  | tagged _ granted _ _ => simp [bounds granted]
  | completed _ _ assembling => simpa using assembling.reads
  | assembled _ assembling => exact assembling.reads
  | _ => simp

theorem Transition.reads (within : s.startByte ≤ s.size) (h : Transition chunkSize s phase more upshot) :
    ReadsInside s.file more := by
  unfold Transition at h
  split at h
  · exact h.reads within
  · exact h.reads
  · exact h.reads within

/-! What is kept. -/

theorem ServerStep.sound (mode : s.mode = .server) (sound : s.Sound (.underway phase) log)
    (h : ServerStep chunkSize s phase more upshot) (reads : ReadsInside upshot.session.file (log ++ more)) :
    upshot.session.Sound (upshot.standing phase) (log ++ more) := by
  have within := sound.within
  cases h with
  | located landed => exact .of_server mode (landed_le landed) reads (by simp)
  | sent => exact .of_server mode (chunkStop_bounds chunkSize within).2 reads (by simp)
  | fileless => exact absurd mode (sound.completing rfl).1
  | _ => exact .of_server mode within reads (by simp)

theorem WholeStep.sound {signed : SignedRequest} (mode : s.mode = .single signed)
    (sound : s.Sound (.underway phase) log) (h : WholeStep s signed phase more upshot)
    (reads : ReadsInside upshot.session.file (log ++ more)) :
    upshot.session.Sound (upshot.standing phase) (log ++ more) := by
  have start := sound.single signed mode
  cases h with
  | signed given => exact .of_single rfl reads rfl
  | sent => exact .of_single mode reads rfl
  | unread => exact .of_single mode reads rfl
  | unsupported => exact .of_single mode reads rfl
  | unsent => exact .of_single mode reads rfl
  | _ => exact .of_single mode reads start

/-- A part that was acknowledged is listed. -/
theorem Multipart.Sound.tagged {start size length : Nat} {acknowledged : List Nat} {name : String} (tag : String)
    (parts : m.Sound false start size acknowledged) (opened : m.storageId = some name)
    (inside : start + length ≤ size) : Multipart.Sound { m with tags := m.tags ++ [tag] }
      (decide (¬ start + length < size)) (start + length) size (acknowledged ++ [length]) where
  partSize := parts.partSize
  keys := Multipart.parts_keys _
  listed := by
    have listed := parts.listed
    simp only [Multipart.parts, List.length_mapIdx] at listed
    simp [Multipart.parts, listed]
  total := by
    rw [List.foldl_append, ← parts.total]
    rfl
  unopened := by simp [opened]
  complete := by
    intro complete
    have last : ¬ start + length < size := of_decide_eq_true complete
    refine ⟨?_, by omega⟩
    simp [Multipart.nextPart]
  pending := fun _ => parts.pending rfl
  finalized := by simp [parts.pending rfl]

/-- The request for the manifest comes when all parts are there. -/
theorem Multipart.Sound.given {start size : Nat} {acknowledged : List Nat} {file : Record} {signed : SignedRequest}
    (parts : m.Sound true start size acknowledged) :
    Multipart.Sound { m with finalize := some (file, signed) } true start size acknowledged where
  partSize := parts.partSize
  keys := parts.keys
  listed := parts.listed
  total := parts.total
  unopened := parts.unopened
  complete := parts.complete
  pending := by simp
  finalized := fun _ => parts.complete rfl

/-- Before the upload is open at the storage, there are no parts. -/
theorem Multipart.Sound.opened {start size : Nat} {acknowledged : List Nat} {name : String}
    (parts : m.Sound false start size acknowledged) (closed : m.storageId = none) :
    Multipart.Sound { m with storageId := some name, tags := [] } false 0 size acknowledged := by
  obtain ⟨-, noParts, rfl⟩ := parts.unopened closed
  -- where no part is listed, none was acknowledged
  have listed := parts.listed
  rw [noParts] at listed
  obtain rfl := List.length_eq_zero_iff.1 listed.symm
  exact
    { partSize := parts.partSize
      keys := Multipart.parts_keys _
      listed := rfl
      total := rfl
      unopened := by simp
      complete := by simp
      pending := fun _ => parts.pending rfl
      finalized := by simp [parts.pending rfl] }

theorem Assembling.sound {file : Record} {signed : SignedRequest} {m' : Multipart} (mode : s.mode = .multipart m')
    (within : s.startByte ≤ s.size) (parts : m'.Sound true s.startByte s.size (acknowledgements log))
    (h : Assembling s m file signed more upshot) (reads : ReadsInside upshot.session.file (log ++ more)) :
    upshot.session.Sound (upshot.standing .completing) (log ++ more) := by
  cases h with
  | unsupported => exact .of_multipart (acknowledgements log) mode within reads (by simp) (by simp) parts
  | untaken => exact .of_multipart (acknowledgements log) mode within reads (by simp) (by simp) parts
  | taken => exact .of_multipart (acknowledgements log) mode within reads (by simp) (by simp) parts

theorem PartStep.sound (mode : s.mode = .multipart m) (sound : s.Sound (.underway phase) log)
    (h : PartStep s m phase more upshot) (reads : ReadsInside upshot.session.file (log ++ more)) :
    upshot.session.Sound (upshot.standing phase) (log ++ more) := by
  have within := sound.within
  have parts := sound.multipart m mode
  cases h with
  | unheard | heard => exact absurd mode (sound.authorizing rfl m)
  | opened closed =>
    exact .of_multipart (acknowledgements log) rfl (Nat.zero_le _) reads (by simp) (by simp)
      (parts.opened closed)
  | @tagged name reply signed length _ _ _ tag opened granted =>
    have inside := authorized_inside within granted
    have tagged := parts.tagged tag opened inside
    -- the phase behind a part tells whether it was the last one
    have sent : (Standing.underway (if s.startByte + length < s.size then .transferring else .completing)).sent =
        decide (¬ s.startByte + length < s.size) := by
      split
      · next more => simp [more]
      · next last => simp [last]
    refine .of_multipart (acknowledgements log ++ [length]) rfl inside reads ?_ (by simp) ?_
    · rw [Upshot.standing]
      split <;> simp
    · rw [Upshot.standing, sent]
      exact tagged
  | completed _ _ assembling =>
    -- the manifest is sent by a session that keeps the request for it already
    rw [List.append_cons] at reads ⊢
    refine assembling.sound rfl ?_ ?_ reads
    · exact within
    · rw [acknowledgements_append, acknowledgements_sent, acknowledgements_nil, List.append_nil]
      exact parts.given
  | assembled _ assembling => exact assembling.sound mode within parts reads
  | _ => exact .of_multipart (acknowledgements log) mode within reads (by simp) (by simp) parts

/-- **A step keeps what a session keeps to.** -/
theorem Transition.sound (sound : s.Sound (.underway phase) log) (h : Transition chunkSize s phase more upshot) :
    upshot.session.Sound (upshot.standing phase) (log ++ more) := by
  have reads : ReadsInside upshot.session.file (log ++ more) := by
    rw [h.continues.file, readsInside_append]
    exact ⟨sound.reads, h.reads sound.within⟩
  unfold Transition at h
  split at h
  · next mode => exact h.sound mode sound reads
  · next mode => exact h.sound mode sound reads
  · next mode => exact h.sound mode sound reads

end Steps

/-! ### All sessions -/

section Reached

variable {chunkSize : ChunkSize} {s : Session} {standing : Standing} {phase : Phase} {log : Log UploadEvent}

theorem Session.Fresh.sound {request : Request} {reply : Reply} (fresh : s.Fresh phase) :
    s.Sound (.underway phase) [.sent request reply] := by
  obtain ⟨rfl, start, unopened⟩ := fresh
  have within : s.startByte ≤ s.size := by omega
  rcases mode : s.mode with - | signed | m
  · exact .of_server mode within (by simp) (by simp)
  · exact .of_single mode (by simp) start
  · obtain ⟨closed, noTags, pending⟩ := unopened m mode
    refine .of_multipart [] mode within (by simp) (by simp) rfl ?_
    exact
      { partSize := m.partSize.positive
        keys := m.parts_keys
        listed := by simp [Multipart.parts, noTags]
        total := start
        unopened := fun _ => ⟨by simp [Multipart.nextPart, noTags], by simp [Multipart.parts, noTags], start⟩
        complete := by simp
        pending := fun _ => pending
        finalized := by simp [pending] }

/-- To be resumed changes nothing about a session but what comes next. -/
theorem Session.Sound.resumed {failedIn : Phase} (sound : s.Sound (.stopped failedIn) log) (cause : StepError) :
    s.Sound (.underway (s.resumeAt failedIn)) (log ++ [.told (.error s.id cause.message cause.status?)]) := by
  have reads : ReadsInside s.file (log ++ [.told (.error s.id cause.message cause.status?)]) := by
    simpa using sound.reads
  rcases mode : s.mode with - | signed | m
  · exact .of_server mode sound.within reads (by simp [Session.resumeAt, mode])
  · refine .of_single mode reads ((sound.single signed mode).trans ?_)
    cases failedIn <;> simp [Session.resumeAt, mode]
  · -- parts are authorized one by one, so the phase that failed is done again
    have same : s.resumeAt failedIn = failedIn := by simp only [Session.resumeAt, mode]
    rw [same]
    refine .of_multipart (acknowledgements log) mode sound.within reads ?_ (by simp) ?_
    · exact fun authorizing => sound.authorizing authorizing m mode
    · cases failedIn <;> exact sound.multipart m mode

/-- **Every reached session is sound.** -/
theorem Session.Reached.sound (reached : s.Reached chunkSize standing log) : s.Sound standing log := by
  -- `step_transition` is all that is needed of a step
  induction reached with
  | opened opens => exact (initiated_fresh opens).sound
  | stepped _ leads ih => exact (step_transition leads).sound ih
  | resumed cause _ ih => exact ih.resumed cause

end Reached

/-- **Sessions keep to their invariant**, whatever is answered and in whatever order an uploader is called.  The
sessions that calls leave behind are reached sessions, and whatever is read for a session lies in its file. -/
theorem sessions_stay_sound (chunkSize : ChunkSize) :
    (∀ (standing : Standing) (s : Session) (log : Log UploadEvent),
      s.Reached chunkSize standing log → s.Sound standing log) ∧
    ∀ (σ : Type) (env : Environment σ) (t : σ) (calls : List Uploader.Call),
      let run := (Uploader.perform calls (.new chunkSize)).run env t
      (∀ failedIn s, run.value.state = .suspended failedIn s → ∃ before since cause,
        run.log = before ++ since ++ [.told (.error s.id (StepError.message cause) cause.status?)] ∧
          s.Reached chunkSize (.stopped failedIn) since) ∧
      ∀ source start stop outcome, .read source start stop outcome ∈ run.log →
        source.covers start stop = true := by
  refine ⟨fun standing s log reached => reached.sound, fun σ env t calls => ?_⟩
  have traced := Uploader.perform_traced env t chunkSize calls
  refine ⟨traced.waiting, fun source start stop outcome member => ?_⟩
  obtain ⟨standing, s, since, reached, read⟩ := traced.read source start stop outcome member
  obtain ⟨rfl, ordered, inside⟩ := reached.sound.reads source start stop outcome read
  exact decide_eq_true ⟨ordered, inside⟩

open DirectStorage (plain rough) in
/-- Three bytes in a rough connection: the answer to the manifest is lost, and all parts are listed by then. -/
theorem sessions_stay_sound_rough :
    let run := (Uploader.perform [.execute (.folder "p") (.ofBytes "a" [1, 2, 3]), .resume, .resume]
      (.new (.atLeastOne 2))).run (rough.environment plain.peer fun _ => none) (.start .empty)
    ∃ failedIn s since, run.value.state = .suspended failedIn s ∧ s.startByte = 3 ∧
      s.Sound (.stopped failedIn) since := by
  intro run
  obtain ⟨sound, runs⟩ := sessions_stay_sound (.atLeastOne 2)
  obtain ⟨waiting, -⟩ := runs _ (rough.environment plain.peer fun _ => none) (.start .empty)
    [.execute (.folder "p") (.ofBytes "a" [1, 2, 3]), .resume, .resume]
  have stopped : run.value.state.session?.map Session.startByte = some 3 := by decide +kernel
  obtain ⟨failedIn, s, state, start⟩ := Uploader.State.exists_suspended stopped
  obtain ⟨before, since, cause, -, reached⟩ := waiting failedIn s state
  exact ⟨failedIn, s, since, state, start, sound _ _ _ reached⟩

end Depot
