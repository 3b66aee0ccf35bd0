import Depot.Proofs.Upload.Granted
import Depot.Proofs.Upload.Invariant
import Depot.Proofs.Upload.ThroughServer

/-!
# What is sent tiles the file

Whatever is answered, the bodies that are sent in a call are slices of the file, each starting where the one
before it ends.  `Chunks` and `Parts` are the grammars of the logs of such calls, read from left to right: from
some byte on, the next slice is asked for, sent and told to be acknowledged, up to the end of the file or the
first failure, which is the end of the call.  In between nothing else happens.

A drive follows them by induction on its steps (`Sequel.chunks`, `Sequel.parts`); `Tiled` says where the first
slice starts.
-/

namespace Depot

open Dialogue (Environment Log)

/-! ### Grammars of logs -/

/-- The chunks from the byte `start` on.  Each is as long as the rest of the file allows, and is told to be
acknowledged, once, unless it is the last one and has failed. -/
inductive Chunks (chunkSize : ChunkSize) (content : Bytes) (s : Session) : Nat → Log UploadEvent → Prop
  | unread {start length : Nat} {cause : IoError} (sized : length = min chunkSize.bytes (s.size - start)) :
      Chunks chunkSize content s start [.read s.file.source start (start + length) (.error cause)]
  | unsent {start length : Nat} {reply : Reply} {cause : HttpError}
      (sized : length = min chunkSize.bytes (s.size - start)) (fails : reply.outcome = .error cause) :
      Chunks chunkSize content s start
        (s.carried start (start + length) length (ByteSource.slice content start (start + length))
          (s.chunkRequest start) reply)
  | last {start length : Nat} {reply : Reply} {answer : Response}
      (sized : length = min chunkSize.bytes (s.size - start)) (answered : reply.outcome = .ok answer)
      (stop : start + length = s.size) :
      Chunks chunkSize content s start
        (s.carried start (start + length) length (ByteSource.slice content start (start + length))
          (s.chunkRequest start) reply ++ [.told (.chunkSent s.id length (start + length))])
  | more {start length : Nat} {reply : Reply} {answer : Response} {log : Log UploadEvent}
      (sized : length = min chunkSize.bytes (s.size - start)) (answered : reply.outcome = .ok answer)
      (more : start + length < s.size) (rest : Chunks chunkSize content s (start + length) log) :
      Chunks chunkSize content s start
        (s.carried start (start + length) length (ByteSource.slice content start (start + length))
          (s.chunkRequest start) reply ++ [.told (.chunkSent s.id length (start + length))] ++ log)

/-- No bytes of the file are sent, and nothing is told. -/
def Quiet (log : Log UploadEvent) : Prop :=
  ∀ h ∈ log, ∃ request reply, h = .sent request reply ∧ ∀ data, request.body ≠ .bytes data

/-- How long a part is that is granted so many bytes, where there is room for `room` bytes. -/
def Multipart.partLength (m : Multipart) (room : Nat) : (granted : Option Nat) → Nat
  | none => min m.partSize.bytes room
  | some n => min n room

/-- The parts from the byte `start` on, of an upload that is open at the storage.  Each is authorized first, and
is told to be acknowledged, once, when the storage has tagged it; behind the last one the upload is completed. -/
inductive Parts (content : Bytes) (s : Session) (name : String) : Multipart → Nat → Log UploadEvent → Prop
  | unauthorized {m : Multipart} {start : Nat} {reply : Reply} {cause : StepError}
      (fails : { s with startByte := start }.authorized m reply = .error cause) :
      Parts content s name m start [.sent (partRequest s m name (min m.partSize.bytes (s.size - start))) reply]
  | unread {m : Multipart} {start length : Nat} {reply : Reply} {grant : StorageGrant} {cause : IoError}
      (granted : reply.outcome.bind (Response.read StorageGrant.readPart?) = .ok grant)
      (sized : length = m.partLength (s.size - start) grant.chunkLength) :
      Parts content s name m start [.sent (partRequest s m name (min m.partSize.bytes (s.size - start))) reply,
        .read s.file.source start (start + length) (.error cause)]
  | unsendable {m : Multipart} {start length : Nat} {reply : Reply} {grant : StorageGrant}
      (granted : reply.outcome.bind (Response.read StorageGrant.readPart?) = .ok grant)
      (sized : length = m.partLength (s.size - start) grant.chunkLength)
      (noMethod : grant.request.toRequest? = none) :
      Parts content s name m start [.sent (partRequest s m name (min m.partSize.bytes (s.size - start))) reply,
        .read s.file.source start (start + length) (.ok (ByteSource.slice content start (start + length)))]
  /-- The part has not arrived, or the answer of the storage carries no tag. -/
  | untagged {m : Multipart} {start length : Nat} {reply stored : Reply} {grant : StorageGrant}
      {request : Request} {cause : StepError}
      (granted : reply.outcome.bind (Response.read StorageGrant.readPart?) = .ok grant)
      (sized : length = m.partLength (s.size - start) grant.chunkLength)
      (sends : grant.request.toRequest? = some request) (fails : stored.partTag = .error cause) :
      Parts content s name m start (.sent (partRequest s m name (min m.partSize.bytes (s.size - start))) reply ::
        s.carried start (start + length) length (ByteSource.slice content start (start + length)) request stored)
  | last {m : Multipart} {start length : Nat} {reply stored : Reply} {grant : StorageGrant}
      {request : Request} {tag : String} {log : Log UploadEvent}
      (granted : reply.outcome.bind (Response.read StorageGrant.readPart?) = .ok grant)
      (sized : length = m.partLength (s.size - start) grant.chunkLength)
      (sends : grant.request.toRequest? = some request) (tagged : stored.partTag = .ok tag)
      (stop : start + length = s.size) (quiet : Quiet log) :
      Parts content s name m start (.sent (partRequest s m name (min m.partSize.bytes (s.size - start))) reply ::
        s.carried start (start + length) length (ByteSource.slice content start (start + length)) request stored ++
        [.told (.chunkSent s.id length (start + length))] ++ log)
  | more {m : Multipart} {start length : Nat} {reply stored : Reply} {grant : StorageGrant}
      {request : Request} {tag : String} {log : Log UploadEvent}
      (granted : reply.outcome.bind (Response.read StorageGrant.readPart?) = .ok grant)
      (sized : length = m.partLength (s.size - start) grant.chunkLength)
      (sends : grant.request.toRequest? = some request) (tagged : stored.partTag = .ok tag)
      (more : start + length < s.size)
      (rest : Parts content s name { m with tags := m.tags ++ [tag] } (start + length) log) :
      Parts content s name m start (.sent (partRequest s m name (min m.partSize.bytes (s.size - start))) reply ::
        s.carried start (start + length) length (ByteSource.slice content start (start + length)) request stored ++
        [.told (.chunkSent s.id length (start + length))] ++ log)

/-- What happens from a phase of a session on, whose bytes do not go to storage in one request. -/
inductive Tiled (chunkSize : ChunkSize) (content : Bytes) (s : Session) : Phase → Log UploadEvent → Prop
  | unlocated {reply : Reply} {cause : StepError} (mode : s.mode = .server)
      (fails : s.landed reply = .error cause) :
      Tiled chunkSize content s .authorizing [.sent s.offsetRequest reply]
  /-- The server says where to go on. -/
  | located {reply : Reply} {offset : Nat} {log : Log UploadEvent} (mode : s.mode = .server)
      (landed : s.landed reply = .ok offset) (chunks : Chunks chunkSize content s offset log) :
      Tiled chunkSize content s .authorizing (.sent s.offsetRequest reply :: log)
  | chunks {log : Log UploadEvent} (mode : s.mode = .server)
      (chunks : Chunks chunkSize content s s.startByte log) : Tiled chunkSize content s .transferring log
  /-- The storage has not named the upload, and does not. -/
  | unopened {m : Multipart} {log : Log UploadEvent} (mode : s.mode = .multipart m)
      (closed : m.storageId = none) (quiet : Quiet log) : Tiled chunkSize content s .transferring log
  | opened {m : Multipart} {request : Request} {reply : Reply} {name : String} {log : Log UploadEvent}
      (mode : s.mode = .multipart m) (closed : m.storageId = none)
      (sends : m.initiate.toRequest? = some request) (named : reply.storageName = .ok name)
      (parts : Parts content s name { m with storageId := some name, tags := [] } s.startByte log) :
      Tiled chunkSize content s .transferring (.sent request reply :: log)
  | parts {m : Multipart} {name : String} {log : Log UploadEvent} (mode : s.mode = .multipart m)
      (opened : m.storageId = some name) (parts : Parts content s name m s.startByte log) :
      Tiled chunkSize content s .transferring log
  | completing {m : Multipart} {log : Log UploadEvent} (mode : s.mode = .multipart m) (quiet : Quiet log) :
      Tiled chunkSize content s .completing log

/-! ### Drives follow the grammars -/

/-- What was read of a source is what these bytes have there. -/
def Slices (source : ByteSource) (content : Bytes) (log : Log UploadEvent) : Prop :=
  ∀ start stop data, .read source start stop (.ok data) ∈ log → data = ByteSource.slice content start stop

section Slices

variable {source : ByteSource} {content : Bytes} {log more : Log UploadEvent}

theorem Slices.left (h : Slices source content (log ++ more)) : Slices source content log :=
  fun _ _ _ member => h _ _ _ (List.mem_append_left _ member)

theorem Slices.right (h : Slices source content (log ++ more)) : Slices source content more :=
  fun _ _ _ member => h _ _ _ (List.mem_append_right _ member)

theorem Slices.tail {h : Dialogue.Happening UploadEvent} (slices : Slices source content (h :: log)) :
    Slices source content log :=
  fun _ _ _ member => slices _ _ _ (List.mem_cons_of_mem _ member)

/-- What is carried is a slice. -/
theorem Slices.carried {s : Session} {start stop length : Nat} {data : Bytes} {request : Request} {reply : Reply}
    (slices : Slices s.file.source content (s.carried start stop length data request reply)) :
    data = ByteSource.slice content start stop :=
  slices start stop data List.mem_cons_self

end Slices

section Drives

variable {chunkSize : ChunkSize} {content : Bytes} {s : Session} {m : Multipart} {phase : Phase}
  {log : Log UploadEvent} {start length : Nat}

theorem chunkStop_eq (within : s.startByte ≤ s.size) :
    s.chunkStop chunkSize = s.startByte + min chunkSize.bytes (s.size - s.startByte) := by
  unfold Session.chunkStop
  omega

/-- Chunks are those of an upload, however far its session has come. -/
theorem Chunks.of_later {startByte chunkLength : Nat}
    (h : Chunks chunkSize content { s with startByte, chunkLength } start log) :
    Chunks chunkSize content s start log := by
  induction h with
  | unread sized => exact .unread sized
  | unsent sized fails => exact .unsent sized fails
  | last sized answered stop => exact .last sized answered stop
  | more sized answered more _ ih => exact .more sized answered more ih

/-- **Chunk after chunk**, a session whose bytes go through the server follows the grammar of chunks. -/
theorem Sequel.chunks (sequel : Sequel chunkSize phase s log) (mode : s.mode = .server)
    (transferring : phase = .transferring) (within : s.startByte ≤ s.size)
    (slices : Slices s.file.source content log) : Chunks chunkSize content s s.startByte log := by
  -- by induction on the steps; `within` is what puts the next chunk where this one ends
  have inside {s : Session} (within : s.startByte ≤ s.size) :
      s.startByte + min chunkSize.bytes (s.size - s.startByte) ≤ s.size := by omega
  induction sequel with
  | finished last =>
    subst transferring
    simp only [Transition, mode] at last
    cases last with
    | recorded answered last =>
      rw [chunkStop_eq within, Nat.add_sub_cancel_left] at *
      obtain rfl := slices.left.carried
      exact .last rfl answered (Nat.le_antisymm (inside within) last)
  | failed last =>
    subst transferring
    simp only [Transition, mode] at last
    cases last with
    | unread =>
      rw [chunkStop_eq within]
      exact .unread rfl
    | unsent fails =>
      rw [chunkStop_eq within, Nat.add_sub_cancel_left] at *
      obtain rfl := slices.carried
      exact .unsent rfl fails
    | unrecorded answered last =>
      rw [chunkStop_eq within, Nat.add_sub_cancel_left] at *
      obtain rfl := slices.left.carried
      exact .last rfl answered (Nat.le_antisymm (inside within) last)
  | next step rest ih =>
    subst transferring
    simp only [Transition, mode] at step
    cases step with
    | sent answered more =>
      rw [chunkStop_eq within, Nat.add_sub_cancel_left] at *
      have rest := ih mode rfl (inside within) slices.right
      obtain rfl := slices.left.left.carried
      exact .more rfl answered more rest.of_later

/-- Parts are those of an upload, however far its session has come. -/
theorem Parts.of_later {name : String} {startByte chunkLength : Nat} {mode : TransferMode}
    (h : Parts content { s with startByte, chunkLength, mode } name m start log) :
    Parts content s name m start log := by
  induction h with
  | unauthorized fails => exact .unauthorized fails
  | unread granted sized => exact .unread granted sized
  | unsendable granted sized noMethod => exact .unsendable granted sized noMethod
  | untagged granted sized sends fails => exact .untagged granted sized sends fails
  | last granted sized sends tagged stop quiet => exact .last granted sized sends tagged stop quiet
  | more granted sized sends tagged more _ ih => exact .more granted sized sends tagged more ih

theorem wanted_eq : s.wanted m = min m.partSize.bytes (s.size - s.startByte) := by
  unfold Session.wanted
  omega

/-- What is granted is taken as far as the file goes. -/
theorem authorized_eq {reply : Reply} {signed : SignedRequest}
    (granted : s.authorized m reply = .ok (signed, length)) :
    ∃ grant, reply.outcome.bind (Response.read StorageGrant.readPart?) = .ok grant ∧ grant.request = signed ∧
      length = m.partLength (s.size - s.startByte) grant.chunkLength := by
  unfold Session.authorized at granted
  split at granted
  · cases granted
  next grant read =>
  refine ⟨grant, read, ?_⟩
  unfold grantedLength at granted
  rcases bytes : grant.chunkLength with - | n
  · simp only [bytes] at granted
    cases granted
    exact ⟨rfl, wanted_eq⟩
  · simp only [bytes] at granted
    split at granted
    · cases granted
    next taken =>
    split at taken
    · cases taken
    · cases taken
      cases granted
      exact ⟨rfl, rfl⟩

/-! An upload that is being completed is quiet. -/

theorem quiet_nil : Quiet [] := List.forall_mem_nil _

theorem quiet_sent {request : Request} {reply : Reply} (body : ∀ data, request.body ≠ .bytes data)
    (quiet : Quiet log) : Quiet (.sent request reply :: log) := by
  intro h member
  rcases List.mem_cons.1 member with rfl | member
  · exact ⟨request, reply, rfl, body⟩
  · exact quiet h member

theorem Assembling.quiet {file : Record} {signed : SignedRequest} {upshot : Upshot}
    (h : Assembling s m file signed log upshot) : Quiet log ∧ ∀ phase s', upshot ≠ .next phase s' := by
  cases h with
  | unsupported => exact ⟨quiet_nil, by rintro phase s' ⟨⟩⟩
  | untaken => exact ⟨quiet_sent (by rintro data ⟨⟩) quiet_nil, by rintro phase s' ⟨⟩⟩
  | taken => exact ⟨quiet_sent (by rintro data ⟨⟩) quiet_nil, by rintro phase s' ⟨⟩⟩

theorem PartStep.quiet {upshot : Upshot} (h : PartStep s m .completing log upshot) :
    Quiet log ∧ ∀ phase s', upshot ≠ .next phase s' := by
  cases h with
  | uncompleted => exact ⟨quiet_sent (by rintro data ⟨⟩) quiet_nil, by rintro phase s' ⟨⟩⟩
  | completed _ _ assembling => exact ⟨quiet_sent (by rintro data ⟨⟩) assembling.quiet.1, assembling.quiet.2⟩
  | assembled _ assembling => exact assembling.quiet

theorem Sequel.quiet (sequel : Sequel chunkSize .completing s log) (mode : s.mode = .multipart m) : Quiet log := by
  cases sequel with
  | finished last =>
    simp only [Transition, mode] at last
    exact last.quiet.1
  | failed last =>
    simp only [Transition, mode] at last
    exact last.quiet.1
  | next step =>
    simp only [Transition, mode] at step
    exact absurd rfl (step.quiet.2 _ _)

/-- **Part after part**, a session that is open at the storage follows the grammar of parts. -/
theorem Sequel.parts {name : String} (sequel : Sequel chunkSize phase s log) (mode : s.mode = .multipart m)
    (opened : m.storageId = some name) (transferring : phase = .transferring) (within : s.startByte ≤ s.size)
    (slices : Slices s.file.source content log) : Parts content s name m s.startByte log := by
  -- the tags of the parts grow from step to step, and with them the number of the next one
  induction sequel generalizing m with
  | finished last =>
    subst transferring
    simp only [Transition, mode] at last
    cases last
  | failed last =>
    subst transferring
    simp only [Transition, mode] at last
    cases last with
    | unopenable closed => cases closed.symm.trans opened
    | unopened closed => cases closed.symm.trans opened
    | unauthorized named fails =>
      cases named.symm.trans opened
      rw [wanted_eq]
      exact .unauthorized fails
    | unread named granted =>
      cases named.symm.trans opened
      obtain ⟨grant, read, rfl, sized⟩ := authorized_eq granted
      rw [wanted_eq]
      exact .unread read sized
    | unsupported named granted noMethod =>
      cases named.symm.trans opened
      obtain ⟨grant, read, rfl, sized⟩ := authorized_eq granted
      obtain rfl := slices _ _ _ (List.mem_cons_of_mem _ List.mem_cons_self)
      rw [wanted_eq]
      exact .unsendable read sized noMethod
    | untagged named granted sends fails =>
      cases named.symm.trans opened
      obtain ⟨grant, read, rfl, sized⟩ := authorized_eq granted
      obtain rfl := slices.tail.carried
      rw [wanted_eq]
      exact .untagged read sized sends fails
  | next step rest ih =>
    subst transferring
    simp only [Transition, mode] at step
    cases step with
    | opened closed => cases closed.symm.trans opened
    | tagged named granted sends tagged =>
      cases named.symm.trans opened
      have inside := (authorized_bounds granted).1
      obtain ⟨grant, read, rfl, sized⟩ := authorized_eq granted
      obtain rfl := slices.left.left.tail.carried
      rw [wanted_eq]
      split at rest
      · next more =>
        -- the rest goes on with a session that is ahead, and its grammar does not depend on that
        have rest := ih rfl opened (if_pos more) (by simp only [Session.size] at *; omega) slices.right
        exact .more read sized sends tagged more rest.of_later
      · next last => exact .last read sized sends tagged (by omega) (rest.quiet rfl)

/-- A step that asks for the offset is followed by the chunks from there. -/
theorem Sequel.tiled_server (sequel : Sequel chunkSize phase s log) (mode : s.mode = .server)
    (underway : phase ≠ .completing) (within : s.startByte ≤ s.size) (slices : Slices s.file.source content log) :
    Tiled chunkSize content s phase log := by
  cases phase with
  | authorizing =>
    cases sequel with
    | finished last =>
      simp only [Transition, mode] at last
      cases last
    | failed last =>
      simp only [Transition, mode] at last
      cases last with
      | unlocated fails => exact .unlocated mode fails
    | next step rest =>
      simp only [Transition, mode] at step
      cases step with
      | located landed =>
        have chunks := rest.chunks mode rfl (landed_le landed) slices.right
        exact .located mode landed chunks.of_later
  | transferring => exact .chunks mode (sequel.chunks mode rfl within slices)
  | completing => exact absurd rfl underway

/-- An upload that is opened at the storage is followed by the parts from the first one. -/
theorem Sequel.tiled_multipart (sequel : Sequel chunkSize phase s log) (mode : s.mode = .multipart m)
    (underway : phase ≠ .authorizing) (within : s.startByte ≤ s.size)
    (unopened : m.storageId = none → s.startByte = 0) (slices : Slices s.file.source content log) :
    Tiled chunkSize content s phase log := by
  cases phase with
  | authorizing => exact absurd rfl underway
  | transferring =>
    rcases opened : m.storageId with - | name
    · cases sequel with
      | finished last =>
        simp only [Transition, mode] at last
        cases last
      | failed last =>
        simp only [Transition, mode] at last
        cases last with
        | unopenable => exact .unopened mode opened quiet_nil
        | unopened _ sends =>
          exact .unopened mode opened (quiet_sent (by simp [(SignedRequest.sent_outside sends).2]) quiet_nil)
        | unauthorized named => cases opened.symm.trans named
        | unread named => cases opened.symm.trans named
        | unsupported named => cases opened.symm.trans named
        | untagged named => cases opened.symm.trans named
      | next step rest =>
        simp only [Transition, mode] at step
        cases step with
        | opened _ sends named =>
          have parts := rest.parts rfl rfl rfl (Nat.zero_le _) slices.right
          rw [← unopened opened] at parts
          exact .opened mode opened sends named parts.of_later
        | tagged named => cases opened.symm.trans named
    · exact .parts mode opened (sequel.parts mode opened rfl within slices)
  | completing => exact .completing mode (sequel.quiet mode)

/-- **From any phase on**, what is sent tiles the file. -/
theorem Sequel.tiled {past : Log UploadEvent} (sequel : Sequel chunkSize phase s log)
    (sound : s.Sound (.underway phase) past) (direct : ∀ signed, s.mode ≠ .single signed)
    (slices : Slices s.file.source content log) : Tiled chunkSize content s phase log := by
  rcases mode : s.mode with - | signed | m
  · refine sequel.tiled_server mode ?_ sound.within slices
    rintro rfl
    exact (sound.completing rfl).1 mode
  · exact absurd mode (direct signed)
  · refine sequel.tiled_multipart mode ?_ sound.within ?_ slices
    · rintro rfl
      exact sound.authorizing rfl m mode
    · exact fun closed => ((sound.multipart m mode).unopened closed).2.2

end Drives

/-! ### Calls -/

namespace Uploader

/-- The call drives this session, from this phase on; before that, this has happened. -/
inductive Drives (u : Uploader) : Call → Log UploadEvent → Phase → Session → Prop
  | begun {target : UploadTarget} {file : UploadFile} {reply : Reply} {phase : Phase} {s : Session}
      (opens : initiated u.chunkSize ⟨u.sessions + 1⟩ target file reply = .opened phase s) :
      Drives u (.execute target file) [.sent (initiationRequest target file) reply] phase s
  | resumed {failedIn : Phase} {s : Session} (state : u.state = .suspended failedIn s) :
      Drives u .resume [] (s.resumeAt failedIn) s

variable {u : Uploader} {call : Call} {opening log rest : Log UploadEvent} {phase : Phase} {s : Session}

/-- Behind the steps of a session, the call tells how it has ended. -/
theorem proceed_tells {after : After Record} (leads : (u.proceed phase s).Leads log after) :
    ∃ steps closing, log = steps ++ [.told closing] ∧ Sequel u.chunkSize phase s steps ∧
      ((∃ session file, closing = .complete session file) ∨
        ∃ session message status, closing = .error session message status) := by
  rw [proceed, Dialogue.leads_bind] at leads
  obtain ⟨outcome, steps, last, driving, closes, rfl⟩ := leads
  refine ⟨steps, ?_⟩
  rcases outcome with ⟨session, file⟩ | ⟨cause, failedIn, s'⟩
  · obtain ⟨rfl, -⟩ := Dialogue.leads_closing.1 closes
    exact ⟨_, rfl, driveWithin_sequel driving, .inl ⟨session, file, rfl⟩⟩
  · obtain ⟨rfl, -⟩ := Dialogue.leads_closing.1 closes
    exact ⟨_, rfl, driveWithin_sequel driving, .inr ⟨_, _, _, rfl⟩⟩

/-- To open an upload is one exchange. -/
theorem leads_initiate {chunkSize : ChunkSize} {id : SessionId} {target : UploadTarget} {file : UploadFile}
    {result : Initiated} (leads : (initiate chunkSize id target file).Leads log result) :
    ∃ reply, log = [.sent (initiationRequest target file) reply] ∧
      result = initiated chunkSize id target file reply := by
  have honours : (initiate chunkSize id target file).Honours .any (fun result log => ∃ reply,
      log = [.sent (initiationRequest target file) reply] ∧
        result = initiated chunkSize id target file reply) [] :=
    honours_initiate.2 ⟨trivial, fun reply _ => ⟨reply, rfl, rfl⟩⟩
  exact Dialogue.honours_any_iff.1 honours log result leads

/-! A call goes as what it calls for. -/

theorem Call.leads_execute {target : UploadTarget} {file : UploadFile} {after : After (Option Record)}
    (leads : ((Call.execute target file).on u).Leads log after) :
    ∃ driven, (u.execute target file).Leads log driven := by
  rw [Call.on, Dialogue.leads_bind] at leads
  obtain ⟨driven, first, second, executes, ends, rfl⟩ := leads
  obtain ⟨rfl, -⟩ := Dialogue.leads_pure.1 ends
  rw [List.append_nil]
  exact ⟨driven, executes⟩

theorem Call.leads_resume {after : After (Option Record)} (leads : (Call.resume.on u).Leads log after) :
    ∃ driven, u.resume.Leads log driven := by
  rw [Call.on, Dialogue.leads_bind] at leads
  obtain ⟨driven, first, second, resumes, ends, rfl⟩ := leads
  obtain ⟨rfl, -⟩ := Dialogue.leads_pure.1 ends
  rw [List.append_nil]
  exact ⟨driven, resumes⟩

/-- A call that drives a session proceeds with it. -/
theorem Drives.leads (drives : u.Drives call opening phase s) {after : After (Option Record)}
    (leads : (call.on u).Leads (opening ++ rest) after) :
    ∃ (u' : Uploader) (driven : After Record), u'.chunkSize = u.chunkSize ∧
      (u'.proceed phase s).Leads rest driven := by
  cases drives with
  | @begun target file reply _ _ opens =>
    obtain ⟨driven, executes⟩ := Call.leads_execute leads
    rw [execute, Dialogue.leads_bind] at executes
    obtain ⟨result, before, behind, initiates, goes, split⟩ := executes
    obtain ⟨reply', rfl, rfl⟩ := leads_initiate initiates
    cases split
    rw [opens] at goes
    exact ⟨{ u with sessions := u.sessions + 1 }, driven, rfl, goes⟩
  | @resumed failedIn s state =>
    obtain ⟨driven, resumes⟩ := Call.leads_resume leads
    rw [resume, state] at resumes
    exact ⟨u, driven, rfl, resumes⟩

/-- A session that is driven was reached. -/
theorem Drives.reached {chunkSize : ChunkSize} {past : Log UploadEvent} (traced : u.Traced chunkSize past)
    (drives : u.Drives call opening phase s) : ∃ since, s.Reached chunkSize (.underway phase) since := by
  cases drives with
  | begun opens => exact ⟨_, .opened (traced.sized ▸ opens)⟩
  | resumed state =>
    obtain ⟨_, since, cause, -, reached⟩ := traced.waiting _ _ state
    exact ⟨_, .resumed cause reached⟩

/-- **Payloads tile the file.**  In every call that drives a session whose bytes do not go to storage in one
request, what happens behind the opening of the call follows the grammar of chunks or of parts, from the first
byte of a session that was just opened, from where the server says or from where the session stands; the last
thing in it is the event that closes the call. -/
theorem payloads_tile_file {σ : Type} (env : Environment σ) (t : σ) (chunkSize : ChunkSize)
    (earlier : List Call) (call : Call) (opening rest : Log UploadEvent) (phase : Phase) (s : Session)
    (content : Bytes) :
    let past := (perform earlier (new chunkSize)).run env t
    let now := (call.on past.value).run env past.peer
    past.value.Drives call opening phase s → now.log = opening ++ rest →
    (∀ signed, s.mode ≠ .single signed) → env.Reads s.file.source content →
      (call ≠ .resume → phase = .transferring ∧ s.startByte = 0) ∧
      ∃ tiles closing, rest = tiles ++ [.told closing] ∧ Tiled chunkSize content s phase tiles ∧
        ((∃ session file, closing = .complete session file) ∨
          ∃ session message status, closing = .error session message status) := by
  intro past now drives log direct reads
  have traced := perform_traced env t chunkSize earlier
  refine ⟨?_, ?_⟩
  · intro begun
    cases drives with
    | begun opens =>
      have fresh := initiated_fresh opens
      exact ⟨fresh.phase, fresh.startByte⟩
    | resumed => exact absurd rfl begun
  obtain ⟨since, reached⟩ := drives.reached traced
  have leads : (call.on past.value).Leads (opening ++ rest) now.value := by
    rw [← log]
    exact Dialogue.leads_run env (call.on past.value) past.peer
  obtain ⟨u', driven, sized, proceeds⟩ := drives.leads leads
  obtain ⟨tiles, closing, rfl, steps, closes⟩ := proceed_tells proceeds
  have slices : Slices s.file.source content tiles := by
    intro start stop data member
    -- what is read in a run is what the environment gives out at some time
    have inLog : .read s.file.source start stop (.ok data) ∈ now.log := by
      rw [log]
      exact List.mem_append_right _ (List.mem_append_left _ member)
    obtain ⟨t, read⟩ := Dialogue.from_run (call.on past.value) past.peer _ inLog
    exact reads.slice start stop t data read.symm
  rw [sized, traced.sized] at steps
  exact ⟨tiles, closing, rfl, steps.tiled reached.sound direct slices, closes⟩

open ChunkServer (plain rough) in
/-- Five bytes in a rough connection: the answer to the first chunk was lost, and the resumption goes on behind it,
as the server says. -/
theorem payloads_tile_file_rough :
    let env := rough.environment plain.peer fun _ => none
    let past := (perform [.execute (.folder "p") (.ofBytes "a" [1, 2, 3, 4, 5])] (new (.atLeastOne 2))).run env
      (.start .empty)
    let now := (Call.resume.on past.value).run env past.peer
    ∃ failedIn s tiles closing, past.value.state = .suspended failedIn s ∧ now.log = tiles ++ [.told closing] ∧
      Tiled (.atLeastOne 2) [1, 2, 3, 4, 5] s .authorizing tiles := by
  intro env past now
  have held : past.value.state.session?.map (fun s => (s.mode, s.file.source)) =
      some (.server, .memory [1, 2, 3, 4, 5]) := by
    decide +kernel
  obtain ⟨failedIn, s, state, same⟩ := State.exists_suspended held
  obtain ⟨mode, source⟩ := Prod.mk.inj same
  have holds : ByteSource.Holds (fun _ => none) s.file.source [1, 2, 3, 4, 5] := by
    rw [source]
    rfl
  have phase : s.resumeAt failedIn = .authorizing := by simp only [Session.resumeAt, mode]
  obtain ⟨-, tiles, closing, log, tiled, -⟩ := payloads_tile_file env (.start .empty) (.atLeastOne 2)
    [.execute (.folder "p") (.ofBytes "a" [1, 2, 3, 4, 5])] .resume [] now.log (s.resumeAt failedIn) s
    [1, 2, 3, 4, 5] (.resumed state) (List.nil_append _).symm (by simp [mode]) (holds.reads_over rough plain.peer)
  rw [phase] at tiled
  exact ⟨failedIn, s, tiles, closing, state, log, tiled⟩

end Uploader

end Depot
