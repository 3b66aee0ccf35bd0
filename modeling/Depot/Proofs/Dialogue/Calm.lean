import Depot.Proofs.Dialogue.Fault
import Mathlib.Data.Nat.Count

/-!
# What faults are to blame for

A schedule may hold any number of faults, but only those count that have hit an exchange or a read
(`Schedule.faults`).  Where none has, the run is the one that there would have been without any
(`run_untroubled`).  So whatever goes well when nothing goes wrong fails only if another fault has hit
(`faults_lt_run`), and whoever uses that has to follow a dialogue along nothing but good answers.

The rules for that are those for exchanges that may fail, without the failures (`calm_exchange`,
`calm_deliver`, `calm_read`).
-/

namespace Depot

open Dialogue (Contract ask fetch)

variable {σ ε α : Type}

/-- Something goes wrong. -/
def Fate.isFault : Fate → Bool
  | carried => false
  | requestLost _ => true
  | replyLost _ => true

theorem Fate.eq_carried {fate : Fate} (h : fate.isFault = false) : fate = .carried := by
  cases fate with
  | carried => rfl
  | requestLost cause => cases h
  | replyLost cause => cases h

namespace Dialogue

variable {env : Environment σ} {t : σ}

/-! What a run is, by what comes first. -/

/-- The result, with one happening before it. -/
def Result.cons (h : Happening ε) (r : Result σ ε α) : Result σ ε α := { r with log := h :: r.log }

theorem run_emit {e : ε} {next : Dialogue ε α} :
    (emit e next).run env t = (next.run env t).cons (.told e) := rfl

theorem run_read {source : ByteSource} {start stop : Nat} {next : Except IoError Bytes → Dialogue ε α} :
    (read source start stop next).run env t =
      ((next (env.read source start stop t).1).run env (env.read source start stop t).2).cons
        (.read source start stop (env.read source start stop t).1) := rfl

theorem run_send {request : Request} {next : Reply → Dialogue ε α} :
    (send request next).run env t =
      ((next (env.send request t).1).run env (env.send request t).2).cons
        (.sent request (env.send request t).1) := rfl

end Dialogue

namespace Schedule

/-- How many faults have hit so far: exchanges that failed, and reads. -/
def faults (schedule : Schedule) (t : Clocked σ) : Nat :=
  Nat.count (fun i => (schedule.exchange i).isFault) t.exchanges +
    Nat.count (fun i => (schedule.reading i).isSome) t.reads

/-- The same schedule, but nothing goes wrong. -/
def untroubled (schedule : Schedule) : Schedule :=
  { schedule with exchange := fun _ => .carried, reading := fun _ => none }

variable {schedule : Schedule} {peer : Peer σ} {contents : String → Option Bytes} {t : Clocked σ}
  {request : Request} {source : ByteSource} {start stop : Nat}

@[simp] theorem faults_start (s : σ) : schedule.faults (.start s) = 0 := rfl

theorem faults_send : schedule.faults ((schedule.environment peer contents).send request t).2 =
    schedule.faults t + if (schedule.exchange t.exchanges).isFault then 1 else 0 := by
  show Nat.count _ (t.exchanges + 1) + Nat.count _ t.reads = _
  rw [Nat.count_succ, faults]
  omega

theorem faults_read : schedule.faults ((schedule.environment peer contents).read source start stop t).2 =
    schedule.faults t + if (schedule.reading t.reads).isSome then 1 else 0 := by
  show Nat.count _ t.exchanges + Nat.count _ (t.reads + 1) = _
  rw [Nat.count_succ, faults]
  omega

theorem faults_le_send :
    schedule.faults t ≤ schedule.faults ((schedule.environment peer contents).send request t).2 := by
  rw [faults_send]
  exact Nat.le_add_right _ _

theorem faults_le_read : schedule.faults t ≤
    schedule.faults ((schedule.environment peer contents).read source start stop t).2 := by
  rw [faults_read]
  exact Nat.le_add_right _ _

/-- An exchange that no fault hits is the same without faults. -/
theorem send_untroubled (same : schedule.faults ((schedule.environment peer contents).send request t).2 =
      schedule.faults t) : (schedule.environment peer contents).send request t =
    (schedule.untroubled.environment peer contents).send request t := by
  rw [faults_send] at same
  have carried : schedule.exchange t.exchanges = .carried := by
    apply Fate.eq_carried
    rw [← Bool.not_eq_true]
    intro fault
    rw [if_pos fault] at same
    omega
  simp only [environment, untroubled, carried]

/-- A read that no fault hits is the same without faults. -/
theorem read_untroubled
    (same : schedule.faults ((schedule.environment peer contents).read source start stop t).2 =
      schedule.faults t) : (schedule.environment peer contents).read source start stop t =
    (schedule.untroubled.environment peer contents).read source start stop t := by
  rw [faults_read] at same
  have works : schedule.reading t.reads = none := by
    rw [← Option.not_isSome_iff_eq_none]
    intro fault
    rw [if_pos fault] at same
    omega
  simp only [environment, untroubled, works]

/-! ### Runs that no fault hits -/

/-- What has hit has hit. -/
theorem faults_le_run (d : Dialogue ε α) (t : Clocked σ) :
    schedule.faults t ≤ schedule.faults (d.run (schedule.environment peer contents) t).peer := by
  induction d generalizing t with
  | done a => exact Nat.le_refl _
  | emit e next ih => exact ih t
  | read source start stop next ih =>
    rw [Dialogue.run_read]
    exact faults_le_read.trans (ih _ _)
  | send request next ih =>
    rw [Dialogue.run_send]
    exact faults_le_send.trans (ih _ _)

/-- **A run that no fault hits** is the one that there would have been without any. -/
theorem run_untroubled (d : Dialogue ε α) (t : Clocked σ)
    (same : schedule.faults (d.run (schedule.environment peer contents) t).peer = schedule.faults t) :
    d.run (schedule.environment peer contents) t =
      d.run (schedule.untroubled.environment peer contents) t := by
  -- no fault is ever taken back, so neither the first happening has been hit nor what follows it
  induction d generalizing t with
  | done a => rfl
  | emit e next ih => rw [Dialogue.run_emit, Dialogue.run_emit, ih t same]
  | read source start stop next ih =>
    rw [Dialogue.run_read] at same
    have here : schedule.faults ((schedule.environment peer contents).read source start stop t).2 =
        schedule.faults t := Nat.le_antisymm ((faults_le_run _ _).trans (Nat.le_of_eq same)) faults_le_read
    rw [Dialogue.run_read, Dialogue.run_read, ih _ _ (same.trans here.symm), read_untroubled here]
  | send request next ih =>
    rw [Dialogue.run_send] at same
    have here : schedule.faults ((schedule.environment peer contents).send request t).2 =
        schedule.faults t := Nat.le_antisymm ((faults_le_run _ _).trans (Nat.le_of_eq same)) faults_le_send
    rw [Dialogue.run_send, Dialogue.run_send, ih _ _ (same.trans here.symm), send_untroubled here]

/-- **Only a fault can spoil** what goes well when nothing goes wrong. -/
theorem faults_lt_run {C : Contract (Clocked σ)} {P : α → Prop} {d : Dialogue ε α}
    (calm : d.Meets (schedule.untroubled.environment peer contents) C (fun a _ => P a) t)
    (spoilt : ¬ P (d.run (schedule.environment peer contents) t).value) :
    schedule.faults t < schedule.faults (d.run (schedule.environment peer contents) t).peer := by
  refine Nat.lt_of_le_of_ne (faults_le_run d t) fun same => spoilt ?_
  rw [run_untroubled d t same.symm]
  exact (Dialogue.meets_iff.1 calm).2.2

/-! ### Following a dialogue along good answers -/

section Calm

variable {answer : Response} {s : σ} {k : Except HttpError Response → Dialogue UploadEvent α}
  {Q : α → Clocked σ → Prop}

theorem calm_exchange (acted : peer request t.peer = (.ok answer, s))
    (heard : ∀ u, u.peer = s →
      (k (.ok answer)).Meets (schedule.untroubled.environment peer contents) .any Q u) :
    (Depot.exchange request >>= k).Meets (schedule.untroubled.environment peer contents) .any Q t := by
  let u : Clocked σ := { t with exchanges := t.exchanges + 1, peer := s }
  have sent : (schedule.untroubled.environment peer contents).send request t =
      (⟨schedule.reports t.exchanges, .ok answer⟩, u) := by
    simp only [environment, untroubled, exchanged, acted, u]
  rw [Depot.exchange, Dialogue.meets_bind, Dialogue.meets_bind, Dialogue.meets_ask, sent]
  exact ⟨trivial, trivial, trivial, trivial, heard u rfl⟩

theorem calm_deliver {session : Session} {start length : Nat} {data : Bytes}
    (acted : peer (request.withBody (.bytes data)).withProgress t.peer = (.ok answer, s))
    (heard : ∀ u, u.peer = s →
      (k (.ok answer)).Meets (schedule.untroubled.environment peer contents) .any Q u) :
    (deliver session start data length request >>= k).Meets (schedule.untroubled.environment peer contents)
      .any Q t := by
  let u : Clocked σ := { t with exchanges := t.exchanges + 1, peer := s }
  have sent : (schedule.untroubled.environment peer contents).send
      (request.withBody (.bytes data)).withProgress t =
        (⟨schedule.reports t.exchanges, .ok answer⟩, u) := by
    simp only [environment, untroubled, exchanged, acted, u]
  rw [deliver, Dialogue.meets_bind, Dialogue.meets_bind, Dialogue.meets_ask, sent, Dialogue.meets_bind,
    Dialogue.meets_tellAll]
  exact ⟨trivial, trivial, trivial, trivial, trivial, heard u rfl⟩

theorem calm_read {k : Except IoError Bytes → Dialogue UploadEvent α} {data : Bytes}
    (holds : source.readRange contents start stop = .ok data)
    (works : ∀ u, u.peer = t.peer →
      (k (.ok data)).Meets (schedule.untroubled.environment peer contents) .any Q u) :
    (fetch source start stop >>= k).Meets (schedule.untroubled.environment peer contents) .any Q t := by
  let u : Clocked σ := { t with reads := t.reads + 1 }
  have read : (schedule.untroubled.environment peer contents).read source start stop t = (.ok data, u) := by
    simp only [environment, untroubled, holds, u]
  rw [Dialogue.meets_bind]
  refine ⟨trivial, trivial, ?_⟩
  rw [read]
  exact works u rfl

end Calm

end Schedule

end Depot
