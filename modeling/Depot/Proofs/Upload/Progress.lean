import Depot.Cli.Progress
import Depot.Proofs.Upload.Tiling

/-!
# Progress goes on

A bar that follows a call of an uploader is moved by what is told of bytes on their way, and by every chunk that
is acknowledged; `positions` are the bytes to which it is moved.  What is told of bytes on their way is taken
from reports on the body of a request, and these come from outside, so a report may say as much as it likes.

* A log `Climbs` from one byte up to another.  A step climbs from where its session stands up to where the next
  one does (`Transition.climbs`), so a whole call climbs to the end of the file (`Sequel.climbs`).  It never goes
  back unless the reports on one body do (`Reply.ReportsOnward`), or say so much that a sum wraps around
  (`ReportsFit`).
* Whatever the reports are, a report on bytes is about those that were read and sent right before it, and keeps
  within them (`Accounted`).  This too is shown for one step, and from it for a whole call.
-/

namespace Depot

open Dialogue (Environment Follows Happening Log events)

/-! ### Bytes of a body -/

section Payload

variable {length loaded later total : Nat}

theorem payloadProgress_le : payloadProgress length loaded total ≤ length := Nat.min_le_right _ _

theorem payloadProgress_eq_min (fits : length + loaded < limit64) :
    payloadProgress length loaded total = min (length + loaded - total) length := by
  rw [payloadProgress, Nat.mod_eq_of_lt fits]

theorem payloadProgress_mono (more : loaded ≤ later) (fits : length + later < limit64) :
    payloadProgress length loaded total ≤ payloadProgress length later total := by
  rw [payloadProgress_eq_min fits, payloadProgress_eq_min (Nat.lt_of_le_of_lt (by omega) fits)]
  omega

/-- All of a chunk has been sent when all of the body has. -/
theorem payloadProgress_eq_iff (fits : length + loaded < limit64) :
    payloadProgress length loaded total = length ↔ total ≤ loaded ∨ length = 0 := by
  rw [payloadProgress_eq_min fits]
  omega

end Payload

/-- The reports on a body agree on how long it is, and none says that less of it has been sent than one before. -/
def Reply.ReportsOnward (reply : Reply) : Prop :=
  reply.progress.Pairwise fun earlier later => earlier.1 ≤ later.1 ∧ earlier.2 = later.2

instance (reply : Reply) : Decidable reply.ReportsOnward :=
  inferInstanceAs (Decidable (reply.progress.Pairwise _))

/-! ### What is reported -/

/-- So far, `length` bytes of the file from the byte `start` on have been read and sent, and it has been told how
far they have come.  The next report on the request says `body`: how much of its body has been sent, and how long
that is. -/
inductive UnderWay (file : UploadFile) (start length : Nat) : Log UploadEvent → Nat × Nat → Prop
  | intro {earlier : Log UploadEvent} {data : Bytes} {request : Request} {reply : Reply}
      {told : List UploadEvent} {body : Nat × Nat} (next : reply.progress[told.length]? = some body) :
      UnderWay file start length (earlier ++ .read file.source start (start + length) (.ok data) ::
        .sent (carrying request data) reply :: told.map .told) body

/-- No report says so much that the sum with the bytes of its chunk goes beyond 64 bits. -/
def ReportsFit (log : Log UploadEvent) : Prop :=
  ∀ before, before <+: log → ∀ file start length body, UnderWay file start length before body →
    length + body.1 < limit64

section Reports

variable {log more : Log UploadEvent} {file : UploadFile} {start length : Nat} {body : Nat × Nat}

theorem UnderWay.behind (past : Log UploadEvent) (underWay : UnderWay file start length log body) :
    UnderWay file start length (past ++ log) body := by
  cases underWay with
  | intro next =>
    rw [← List.append_assoc]
    exact .intro next

/-- What is on its way was read and sent, and the report is one of those on the request. -/
theorem UnderWay.sent (underWay : UnderWay file start length log body) : ∃ data request reply,
    .read file.source start (start + length) (.ok data) ∈ log ∧ .sent request reply ∈ log ∧
      body ∈ reply.progress := by
  cases underWay with
  | @intro earlier data request reply told _ next =>
    exact ⟨data, carrying request data, reply, by simp, by simp, List.mem_of_getElem? next⟩

theorem ReportsFit.left (fits : ReportsFit (log ++ more)) : ReportsFit log :=
  fun before first => fits before (first.trans (List.prefix_append log more))

theorem ReportsFit.right (fits : ReportsFit (log ++ more)) : ReportsFit more :=
  fun before first file start length body underWay =>
    fits (log ++ before) ((List.prefix_append_right_inj log).2 first) file start length body (underWay.behind log)

/-- When bytes are on their way, each report on their request comes up behind the ones before it. -/
theorem ReportsFit.carried {s : Session} {data : Bytes} {request : Request} {reply : Reply}
    (fits : ReportsFit (s.carried start (start + length) length data request reply)) :
    ∀ body ∈ reply.progress, length + body.1 < limit64 := by
  intro body member
  obtain ⟨i, inside, rfl⟩ := List.getElem_of_mem member
  let told := (reports s start length reply.progress).take i
  have told_length : told.length = i := by
    simp only [told, reports, List.length_take, List.length_map]
    omega
  have first : told.map Happening.told <+: (reports s start length reply.progress).map Happening.told :=
    (List.take_prefix i _).map _
  have next : reply.progress[told.length]? = some reply.progress[i] := by
    rw [told_length, List.getElem?_eq_getElem]
  have underWay : UnderWay s.file start length ([] ++ .read s.file.source start (start + length) (.ok data) ::
    .sent (carrying request data) reply :: told.map .told) reply.progress[i] := .intro next
  exact fits _ ((List.prefix_cons_inj _).2 ((List.prefix_cons_inj _).2 first)) _ _ _ _ underWay

end Reports

section Scheduled

variable {σ α : Type} {schedule : Schedule} {peer : Peer σ} {contents : String → Option Bytes}
  {d : Dialogue UploadEvent α} {t : Clocked σ} {reported : List (Nat × Nat)}
  (same : ∀ exchange, schedule.reports exchange = reported)

include same

end Scheduled

/-! ### Where a bar goes -/

/-- The bytes to which the events of a log move a bar, one after the other. -/
def positions (log : Log UploadEvent) : List Nat := (events log).filterMap UploadEvent.position?

section Positions

variable {log more : Log UploadEvent} {request : Request} {reply : Reply} {start stop length : Nat}

@[simp] theorem positions_nil : positions [] = [] := rfl

@[simp] theorem positions_append : positions (log ++ more) = positions log ++ positions more := by
  simp [positions]

@[simp] theorem positions_sent : positions (.sent request reply :: log) = positions log := rfl

@[simp] theorem positions_read {source : ByteSource} {outcome : Except IoError Bytes} :
    positions (.read source start stop outcome :: log) = positions log := rfl

@[simp] theorem positions_chunkSent {id : SessionId} {bytes acknowledged : Nat} :
    positions (.told (.chunkSent id bytes acknowledged) :: log) = acknowledged :: positions log := rfl

@[simp] theorem positions_progress {id : SessionId} {loaded total : Nat} :
    positions (.told (.progress id start loaded total) :: log) = (start + loaded) :: positions log := rfl

theorem positions_carried {s : Session} {data : Bytes} :
    positions (s.carried start stop length data request reply) =
      reply.progress.map fun (loaded, total) => start + payloadProgress length loaded total := by
  rw [Session.carried, positions_read, positions_sent, positions, Dialogue.events_map_told, reports,
    List.filterMap_map]
  exact congrFun List.filterMap_eq_map _

end Positions

/-- The log moves a bar from the byte `low` on, up to the byte `high` at most, and never back unless some reports
went back or did not fit. -/
structure Climbs (low high : Nat) (log : Log UploadEvent) : Prop where
  upward : low ≤ high
  within : ∀ p ∈ positions log, low ≤ p ∧ p ≤ high
  onward : (∀ request reply, .sent request reply ∈ log → reply.ReportsOnward) → ReportsFit log →
    (positions log).Pairwise (· ≤ ·)

namespace Climbs

variable {low middle high start length : Nat} {log more : Log UploadEvent} {s : Session} {data : Bytes}
  {request : Request} {reply : Reply}

/-- A log that leaves the bar alone. -/
theorem of_still (upward : low ≤ high) (still : positions log = []) : Climbs low high log where
  upward := upward
  within := by simp [still]
  onward := by simp [still]

theorem weaken {lower higher : Nat} (climbs : Climbs low high log) (below : lower ≤ low) (above : high ≤ higher) :
    Climbs lower higher log where
  upward := below.trans (climbs.upward.trans above)
  within := fun p member => ⟨below.trans (climbs.within p member).1, (climbs.within p member).2.trans above⟩
  onward := climbs.onward

/-- A log goes on where the one before it has come to. -/
theorem append (first : Climbs low middle log) (second : Climbs middle high more) :
    Climbs low high (log ++ more) where
  upward := first.upward.trans second.upward
  within := by
    intro p member
    rw [positions_append, List.mem_append] at member
    rcases member with member | member
    · exact (first.weaken (Nat.le_refl _) second.upward).within p member
    · exact (second.weaken first.upward (Nat.le_refl _)).within p member
  onward := by
    intro onward fits
    rw [positions_append, List.pairwise_append]
    refine ⟨first.onward (fun _ _ sent => onward _ _ (List.mem_append_left _ sent)) fits.left,
      second.onward (fun _ _ sent => onward _ _ (List.mem_append_right _ sent)) fits.right, ?_⟩
    intro p earlier q later
    exact (first.within p earlier).2.trans (second.within q later).1

theorem sent (climbs : Climbs low high log) : Climbs low high (.sent request reply :: log) :=
  (of_still (Nat.le_refl low) rfl : Climbs low low [.sent request reply]).append climbs

/-- Bytes on their way move the bar over them. -/
theorem carried {stop : Nat} (ends : start + length = stop) :
    Climbs start stop (s.carried start stop length data request reply) where
  upward := ends ▸ Nat.le_add_right _ _
  within := by
    intro p member
    rw [positions_carried] at member
    obtain ⟨⟨loaded, total⟩, -, rfl⟩ := List.mem_map.1 member
    exact ⟨Nat.le_add_right _ _, ends ▸ Nat.add_le_add_left payloadProgress_le _⟩
  onward := by
    subst ends
    intro onward fits
    rw [positions_carried, List.pairwise_map]
    have reportsOnward : reply.ReportsOnward := onward _ reply (List.mem_cons_of_mem _ List.mem_cons_self)
    refine reportsOnward.imp_of_mem ?_
    rintro ⟨loaded, total⟩ ⟨later, _⟩ - member ⟨more, rfl⟩
    exact Nat.add_le_add_left (payloadProgress_mono more (fits.carried _ member)) _

/-- When they are acknowledged, the bar is behind them. -/
theorem acknowledged {stop bytes : Nat} {id : SessionId} (ends : start + length = stop) : Climbs start stop
    (s.carried start stop length data request reply ++ [.told (.chunkSent id bytes stop)]) := by
  have behind : Climbs stop stop [.told (.chunkSent id bytes stop)] :=
    { upward := Nat.le_refl _
      within := by simp
      onward := by simp }
  exact (carried ends).append behind

end Climbs

/-! ### What is told of bytes on their way -/

/-- A report on bytes keeps within the bytes that are on their way, and these within the file.  As long as no sum
wraps around, all of them have been sent when all of the body has, which is always so if there are none. -/
def Accounted (id : SessionId) (file : UploadFile) (before : Log UploadEvent) : Happening UploadEvent → Prop
  | .told (.progress session start loaded total) =>
    session = id ∧ total = file.size ∧ ∃ length body, UnderWay file start length before body ∧
      loaded ≤ length ∧ start + length ≤ file.size ∧
      (length + body.1 < limit64 → (loaded = length ↔ body.2 ≤ body.1 ∨ length = 0))
  | _ => True

section Accounted

variable {s : Session} {start stop length : Nat} {data : Bytes} {request : Request} {reply : Reply}
  {past : Log UploadEvent} (ends : start + length = stop) (inside : stop ≤ s.size)

include ends inside

/-- Bytes on their way are accounted for, whatever the reports on them say. -/
theorem accounted_carried :
    Follows (Accounted s.id s.file) past (s.carried start stop length data request reply) := by
  subst ends
  refine ⟨trivial, trivial, ?_⟩
  rw [Dialogue.follows_iff]
  intro before h after split
  -- what has been told before a report are the reports before it
  obtain ⟨told, rest, reported, rfl, here⟩ := List.map_eq_append_iff.1 split
  obtain ⟨report, rest, rfl, rfl, -⟩ := List.map_eq_cons_iff.1 here
  obtain ⟨bodies, others, bodiesEq, rfl, here⟩ := List.map_eq_append_iff.1 reported
  obtain ⟨body, others, rfl, rfl, -⟩ := List.map_eq_cons_iff.1 here
  have next : reply.progress[bodies.length]? = some body := by simp [bodiesEq]
  refine ⟨rfl, rfl, length, body, ?_, payloadProgress_le, inside, payloadProgress_eq_iff⟩
  rw [List.append_assoc, List.append_assoc]
  exact .intro (by rwa [List.length_map])

theorem accounted_acknowledged {id : SessionId} {bytes acknowledged : Nat} :
    Follows (Accounted s.id s.file) past (s.carried start stop length data request reply ++
      [.told (.chunkSent id bytes acknowledged)]) :=
  Dialogue.follows_append.2 ⟨accounted_carried ends inside, trivial, trivial⟩

end Accounted

/-! ### One step -/

/-- What happens from this phase on tells of no byte before this one.  A server that is asked how to go on may
say that nothing has landed. -/
def Session.floor (s : Session) : Phase → Nat
  | .authorizing => 0
  | .transferring | .completing => s.startByte

/-- A step tells of no byte behind this one. -/
def Upshot.ceiling : Upshot → Nat
  | next phase s => s.floor phase
  | finished s _ | failed _ s => s.size

section Steps

variable {chunkSize : ChunkSize} {s : Session} {m : Multipart} {phase : Phase} {past log : Log UploadEvent}
  {upshot : Upshot}

/-- Behind a part it makes no difference whether more are to come. -/
theorem Session.floor_sending {more : Prop} [Decidable more] :
    s.floor (if more then .transferring else .completing) = s.startByte := by
  split <;> rfl

theorem ServerStep.climbs (within : s.startByte ≤ s.size) (h : ServerStep chunkSize s phase log upshot) :
    Climbs (s.floor phase) upshot.ceiling log := by
  obtain ⟨le_stop, stop_le⟩ := chunkStop_bounds chunkSize within
  have ends : s.startByte + (s.chunkStop chunkSize - s.startByte) = s.chunkStop chunkSize :=
    Nat.add_sub_cancel' le_stop
  cases h with
  | unlocated | located => exact .of_still (Nat.zero_le _) rfl
  | unread | fileless => exact .of_still within rfl
  | unsent => exact (Climbs.carried ends).weaken (Nat.le_refl _) stop_le
  | sent => exact .acknowledged ends
  | unrecorded | recorded => exact (Climbs.acknowledged ends).weaken (Nat.le_refl _) stop_le

theorem WholeStep.climbs {signed : SignedRequest} (within : s.startByte ≤ s.size)
    (start : phase = .transferring → s.startByte = 0) (h : WholeStep s signed phase log upshot) :
    Climbs (s.floor phase) upshot.ceiling log := by
  cases h with
  | unsigned => exact .of_still (Nat.zero_le _) rfl
  | signed => exact .of_still (Nat.le_refl _) rfl
  | unsent => exact (Climbs.carried (Nat.zero_add _)).weaken (Nat.le_of_eq (start rfl)) (Nat.le_refl _)
  | sent => exact (Climbs.acknowledged (Nat.zero_add _)).weaken (Nat.le_of_eq (start rfl)) (Nat.le_refl _)
  | unread | unsupported | uncompleted | completed => exact .of_still within rfl

/-- A manifest moves no bar. -/
theorem Assembling.still {file : Record} {signed : SignedRequest} (h : Assembling s m file signed log upshot) :
    positions log = [] ∧ upshot.ceiling = s.size := by
  cases h <;> exact ⟨rfl, rfl⟩

theorem PartStep.climbs (within : s.startByte ≤ s.size) (unopened : m.storageId = none → s.startByte = 0)
    (h : PartStep s m phase log upshot) : Climbs (s.floor phase) upshot.ceiling log := by
  cases h with
  | unheard | heard => exact .of_still (Nat.zero_le _) rfl
  | opened closed => exact .of_still (Nat.le_of_eq (unopened closed)) rfl
  | untagged _ granted =>
    exact ((Climbs.carried rfl).weaken (Nat.le_refl _) (authorized_inside within granted)).sent
  | tagged =>
    rw [Upshot.ceiling, Session.floor_sending]
    exact (Climbs.acknowledged rfl).sent
  | unopenable | unopened | unauthorized | unread | unsupported | uncompleted => exact .of_still within rfl
  | completed _ _ assembling =>
    obtain ⟨still, ends⟩ := assembling.still
    rw [ends]
    exact .of_still within still
  | assembled _ assembling =>
    obtain ⟨still, ends⟩ := assembling.still
    rw [ends]
    exact .of_still within still

/-- **A step climbs** from where its session stands to where the next one does. -/
theorem Transition.climbs (sound : s.Sound (.underway phase) past) (h : Transition chunkSize s phase log upshot) :
    Climbs (s.floor phase) upshot.ceiling log := by
  unfold Transition at h
  split at h
  · exact h.climbs sound.within
  · next signed mode =>
    refine h.climbs sound.within ?_
    rintro rfl
    exact sound.single signed mode
  · next m mode => exact h.climbs sound.within fun closed => ((sound.multipart m mode).unopened closed).2.2

/-! What is told of bytes on their way. -/

theorem ServerStep.accounted (within : s.startByte ≤ s.size) (h : ServerStep chunkSize s phase log upshot) :
    Follows (Accounted s.id s.file) past log := by
  obtain ⟨le_stop, stop_le⟩ := chunkStop_bounds chunkSize within
  have ends := Nat.add_sub_cancel' le_stop
  cases h with
  | unsent => exact accounted_carried ends stop_le
  | sent | unrecorded | recorded => exact accounted_acknowledged ends stop_le
  | _ => simp [Follows, Accounted]

theorem WholeStep.accounted {signed : SignedRequest} (h : WholeStep s signed phase log upshot) :
    Follows (Accounted s.id s.file) past log := by
  have ends := Nat.zero_add s.size
  cases h with
  | unsent => exact accounted_carried ends (Nat.le_refl _)
  | sent => exact accounted_acknowledged ends (Nat.le_refl _)
  | _ => simp [Follows, Accounted]

/-- A manifest is not bytes of the file. -/
theorem Assembling.accounted {record : Record} {signed : SignedRequest} {id : SessionId} {file : UploadFile}
    (h : Assembling s m record signed log upshot) : Follows (Accounted id file) past log := by
  cases h <;> simp [Follows, Accounted]

theorem PartStep.accounted (within : s.startByte ≤ s.size) (h : PartStep s m phase log upshot) :
    Follows (Accounted s.id s.file) past log := by
  cases h with
  | untagged _ granted => exact ⟨trivial, accounted_carried rfl (authorized_inside within granted)⟩
  | tagged _ granted => exact ⟨trivial, accounted_acknowledged rfl (authorized_inside within granted)⟩
  | completed _ _ assembling => exact ⟨trivial, assembling.accounted⟩
  | assembled _ assembling => exact assembling.accounted
  | _ => simp [Follows, Accounted]

/-- **A step accounts for all that it tells** of bytes on their way. -/
theorem Transition.accounted (within : s.startByte ≤ s.size) (h : Transition chunkSize s phase log upshot) :
    Follows (Accounted s.id s.file) past log := by
  unfold Transition at h
  split at h
  · exact h.accounted within
  · exact h.accounted
  · exact h.accounted within

end Steps

/-! ### Step after step -/

section Drives

variable {chunkSize : ChunkSize} {s : Session} {phase : Phase} {past log : Log UploadEvent}

/-- **Step after step** a bar climbs to the end of the file. -/
theorem Sequel.climbs (sequel : Sequel chunkSize phase s log) (sound : s.Sound (.underway phase) past) :
    Climbs (s.floor phase) s.size log := by
  induction sequel generalizing past with
  | finished last =>
    have size := congrArg UploadFile.size last.continues.file
    exact (last.climbs sound).weaken (Nat.le_refl _) (Nat.le_of_eq size)
  | failed last =>
    have size := congrArg UploadFile.size last.continues.file
    exact (last.climbs sound).weaken (Nat.le_refl _) (Nat.le_of_eq size)
  | next step rest ih =>
    -- the next step is taken by a session of the same file, from where this one has left it
    have size := congrArg UploadFile.size step.continues.file
    have climbs := (step.climbs sound).append (ih (step.sound sound))
    exact climbs.weaken (Nat.le_refl _) (Nat.le_of_eq size)

/-- **Step after step** all that is told of bytes on their way is accounted for. -/
theorem Sequel.accounted {before : Log UploadEvent} (sequel : Sequel chunkSize phase s log)
    (sound : s.Sound (.underway phase) past) : Follows (Accounted s.id s.file) before log := by
  induction sequel generalizing past before with
  | finished last => exact last.accounted sound.within
  | failed last => exact last.accounted sound.within
  | @next _ _ s s' steps _ step rest ih =>
    have same : s'.Continues s := step.continues
    have goesOn := @ih _ (before ++ steps) (step.sound sound)
    rw [same.id, same.file] at goesOn
    exact Dialogue.follows_append.2 ⟨step.accounted sound.within, goesOn⟩

end Drives

/-! ### Calls -/

namespace Uploader

/-- The file that a call sends. -/
def Call.file? (u : Uploader) : Call → Option UploadFile
  | execute _ file => some file
  | resume => u.state.session?.map (·.file)
  | abort => none

/-- What a call tells of progress, it tells while it drives a session. -/
inductive Tells (u : Uploader) (call : Call) : Log UploadEvent → Prop
  | nothing {log : Log UploadEvent} (still : positions log = []) : Tells u call log
  | driven {opening steps : Log UploadEvent} {phase : Phase} {s : Session} {closing : UploadEvent}
      (drives : u.Drives call opening phase s) (sequel : Sequel u.chunkSize phase s steps)
      (closes : closing.position? = none) : Tells u call (opening ++ (steps ++ [.told closing]))

section Calls

variable {u : Uploader} {call : Call} {log opening past : Log UploadEvent} {phase : Phase} {s : Session}

theorem Tells.proceed {u' : Uploader} {after : After Record} (drives : u.Drives call opening phase s)
    (sized : u'.chunkSize = u.chunkSize) (leads : (u'.proceed phase s).Leads log after) :
    Tells u call (opening ++ log) := by
  obtain ⟨steps, closing, rfl, sequel, closes⟩ := proceed_tells leads
  rw [sized] at sequel
  refine .driven drives sequel ?_
  rcases closes with ⟨session, file, rfl⟩ | ⟨session, message, status, rfl⟩ <;> rfl

/-- A call drives a session of the file that it sends, and tells nothing before. -/
theorem Drives.sends (drives : u.Drives call opening phase s) :
    call.session? u = some s.id ∧ call.file? u = some s.file ∧ positions opening = [] := by
  cases drives with
  | begun opens =>
    obtain ⟨session, -, file⟩ := initiated_opened opens
    exact ⟨congrArg some session.symm, congrArg some file.symm, rfl⟩
  | resumed state => simp [Call.session?, Call.file?, state, State.session?]

end Calls

end Uploader

end Depot
