import Depot.Dialogue

/-!
# Reading logs

The log of a run has everything that happened in its order, and what is asked of it here are three things:
the exchanges, each a request with its reply; the events; and whether every happening is one that may follow
what has happened before it (`Follows`).

Two dialogues in a row leave two logs in a row (`run_bind`), and then the second log is read with the first
one as its past (`follows_append`).
-/

namespace Depot.Dialogue

variable {σ ε α β : Type} {env : Environment σ}

/-- What has happened, in its order. -/
abbrev Log (ε : Type) := List (Happening ε)

/-- A request and what came back. -/
structure Exchange where
  request : Request
  reply : Reply

/-- The exchanges of a log, in their order. -/
def exchanges (log : Log ε) : List Exchange :=
  log.filterMap fun
    | .sent request reply => some ⟨request, reply⟩
    | _ => none

/-! ### What a log consists of -/

section Reading

variable (log more : Log ε) (told : List ε)

@[simp] theorem exchanges_nil : exchanges ([] : Log ε) = [] := rfl

@[simp] theorem exchanges_append : exchanges (log ++ more) = exchanges log ++ exchanges more :=
  List.filterMap_append

@[simp] theorem exchanges_sent (request : Request) (reply : Reply) :
    exchanges (.sent request reply :: log) = ⟨request, reply⟩ :: exchanges log := rfl

@[simp] theorem exchanges_read (source : ByteSource) (start stop : Nat)
    (outcome : Except IoError Bytes) :
    exchanges (.read source start stop outcome :: log) = exchanges log := rfl

@[simp] theorem exchanges_told (e : ε) : exchanges (.told e :: log) = exchanges log := rfl

@[simp] theorem exchanges_map_told : exchanges (told.map .told) = [] := by
  induction told with
  | nil => rfl
  | cons e rest ih => exact ih

/-- The requests of a log are those of its exchanges. -/
theorem requests_eq : requests log = (exchanges log).map (·.request) := by
  induction log with
  | nil => rfl
  | cons h rest ih =>
    cases h with
    | sent request reply => exact congrArg (request :: ·) ih
    | read source start stop outcome => exact ih
    | told e => exact ih

@[simp] theorem events_nil : events ([] : Log ε) = [] := rfl

@[simp] theorem events_append : events (log ++ more) = events log ++ events more :=
  List.filterMap_append

@[simp] theorem events_sent (request : Request) (reply : Reply) :
    events (.sent request reply :: log) = events log := rfl

@[simp] theorem events_read (source : ByteSource) (start stop : Nat)
    (outcome : Except IoError Bytes) :
    events (.read source start stop outcome :: log) = events log := rfl

@[simp] theorem events_told (e : ε) : events (.told e :: log) = e :: events log := rfl

@[simp] theorem events_map_told : events (told.map .told) = told := by
  induction told with
  | nil => rfl
  | cons e rest ih => exact congrArg (e :: ·) ih

end Reading

/-! ### Keeping count -/

/-- What a log comes to, one exchange after the other. -/
def tally (add : β → Exchange → β) (start : β) (log : Log ε) : β := (exchanges log).foldl add start

section Tally

variable {add : β → Exchange → β} {start : β} {log : Log ε} {request : Request} {reply : Reply}

theorem tally_sent : tally add start (log ++ [.sent request reply]) =
    add (tally add start log) ⟨request, reply⟩ := by
  simp [tally]

theorem tally_sent_told {told : List ε} :
    tally add start (log ++ .sent request reply :: told.map .told) =
      add (tally add start log) ⟨request, reply⟩ := by
  simp [tally]

theorem tally_read {source : ByteSource} {first stop : Nat} {outcome : Except IoError Bytes} :
    tally add start (log ++ [.read source first stop outcome]) = tally add start log := by
  simp [tally]

theorem tally_told {e : ε} : tally add start (log ++ [.told e]) = tally add start log := by
  simp [tally]

end Tally

/-! ### Logs of runs -/

/-- **Two dialogues in a row** leave two logs in a row. -/
theorem run_bind (d : Dialogue ε β) (k : β → Dialogue ε α) (t : σ) :
    (d >>= k).run env t =
      let first := d.run env t
      let second := (k first.value).run env first.peer
      { second with log := first.log ++ second.log } := by
  show (d.bind k).run env t = _
  induction d generalizing t with
  | done b => rfl
  | emit e next ih => simp only [bind, run, ih, List.cons_append]
  | read source start stop next ih => simp only [bind, run, ih, List.cons_append]
  | send request next ih => simp only [bind, run, ih, List.cons_append]

/-- Where nothing is left to do, nothing happens. -/
theorem run_bind_pure {d : Dialogue ε β} {k : β → Dialogue ε α} {t : σ} {a : α}
    (idle : k (d.run env t).value = pure a) :
    (d >>= k).run env t = ⟨a, (d.run env t).peer, (d.run env t).log⟩ := by
  rw [run_bind]
  simp only [idle]
  show Result.mk a (d.run env t).peer ((d.run env t).log ++ []) = _
  rw [List.append_nil]

/-- What the other side has had its part in, it has answered in some state. -/
def Happening.From (env : Environment σ) : Happening ε → Prop
  | sent request reply => ∃ t, reply = (env.send request t).1
  | read source start stop outcome => ∃ t, outcome = (env.read source start stop t).1
  | told _ => True

theorem from_run (d : Dialogue ε α) (t : σ) : ∀ h ∈ (d.run env t).log, h.From env := by
  induction d generalizing t with
  | done a => exact List.forall_mem_nil _
  | emit e next ih => exact List.forall_mem_cons.2 ⟨trivial, ih t⟩
  | read source start stop next ih => exact List.forall_mem_cons.2 ⟨⟨t, rfl⟩, ih _ _⟩
  | send request next ih => exact List.forall_mem_cons.2 ⟨⟨t, rfl⟩, ih _ _⟩

/-! ### What may follow what -/

/-- Every happening of a log may follow the past and what is before it in the log. -/
def Follows (may : Log ε → Happening ε → Prop) : (past log : Log ε) → Prop
  | _, [] => True
  | past, h :: rest => may past h ∧ Follows may (past ++ [h]) rest

variable {may : Log ε → Happening ε → Prop} {past log more : Log ε}

/-- To follow is to follow at every place of the log. -/
theorem follows_iff : Follows may past log ↔
    ∀ before h after, log = before ++ h :: after → may (past ++ before) h := by
  induction log generalizing past with
  | nil => simp [Follows]
  | cons first rest ih =>
    rw [Follows, ih]
    constructor
    · rintro ⟨atFirst, atRest⟩ before h after split
      rcases before with - | ⟨b, before⟩
      · obtain ⟨rfl, rfl⟩ := List.cons.inj split
        rwa [List.append_nil]
      · obtain ⟨rfl, rest_eq⟩ := List.cons.inj split
        have later := atRest before h after rest_eq
        rwa [List.append_assoc] at later
    · intro everywhere
      refine ⟨?_, ?_⟩
      · have here := everywhere [] first rest rfl
        rwa [List.append_nil] at here
      · rintro before h after rfl
        have later := everywhere (first :: before) h after rfl
        rwa [List.append_assoc]

/-- What does not depend on the past is for every happening to see. -/
theorem follows_of_forall_mem (h : ∀ before, ∀ e ∈ log, may (past ++ before) e) :
    Follows may past log := by
  rw [follows_iff]
  rintro before e after rfl
  exact h before e (List.mem_append_right before List.mem_cons_self)

theorem follows_append :
    Follows may past (log ++ more) ↔ Follows may past log ∧ Follows may (past ++ log) more := by
  induction log generalizing past with
  | nil => simp [Follows]
  | cons h rest ih =>
    rw [List.cons_append, Follows, Follows, ih, and_assoc, List.append_assoc]
    rfl

end Depot.Dialogue
