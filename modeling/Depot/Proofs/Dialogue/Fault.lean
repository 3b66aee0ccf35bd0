import Depot.Peer.Fault
import Depot.Proofs.Dialogue.Run
import Depot.Upload.Step

/-!
# Exchanges that may fail

What a dialogue has to be prepared for when a schedule of faults lies between it and its peer.  A contract
with the peer (`Contract.clocked`) does not look at the clocks, and then an exchange has three outcomes
whatever the schedule is: the peer has not acted, or it has and nobody knows, or its answer is heard.  For
whoever goes on from there, the first two are one (`Came`): some property holds whether the peer has acted or
not.  A read has two outcomes.

The rules are stated for the two ways in which an upload sends (`meets_exchange`, `meets_deliver`) and for
the one in which it reads (`meets_read`), each with what comes next.  Nothing later looks at a schedule again.
-/

namespace Depot

open Dialogue (Contract ask fetch)

variable {σ ε : Type}

namespace Dialogue.Contract

/-- The contract with a peer, whatever the clocks show. -/
def clocked (C : Contract σ) : Contract (Clocked σ) :=
  ⟨fun t => C.good t.peer, fun request t => C.admits request t.peer⟩

/-- A request may be put, and the peer is in a good state also when it has acted. -/
structure Permits (C : Contract σ) (peer : Peer σ) (request : Request) (s : σ) : Prop where
  before : C.good s
  admits : C.admits request s
  after : C.good (peer request s).2

/-- Where nothing is asked, anything may be put. -/
theorem permits_any (peer : Peer σ) (request : Request) (s : σ) : Contract.any.Permits peer request s :=
  ⟨trivial, trivial, trivial⟩

end Dialogue.Contract

namespace Schedule

variable {C : Contract σ} {peer : Peer σ} {schedule : Schedule} {contents : String → Option Bytes}
  {t : Clocked σ}

/-- The three outcomes of an exchange. -/
theorem exchanged_cases {P : Except HttpError Response × σ → Prop} {request : Request} {s : σ}
    (fate : Fate) (unseen : ∀ cause, P (.error cause, s))
    (unheard : ∀ cause, P (.error cause, (peer request s).2)) (heard : P (peer request s)) :
    P (exchanged peer request s fate) := by
  cases fate with
  | carried => exact heard
  | requestLost cause => exact unseen cause
  | replyLost cause => exact unheard cause

/-- What comes of an exchange: the answer is heard, and the peer is where it took itself; or there is a
failure, and all that is known of the peer is `P`. -/
inductive Came (answer : Response) (s : σ) (P : σ → Prop) : Except HttpError Response → σ → Prop where
  | heard : Came answer s P (.ok answer) s
  | failed (cause : HttpError) {v : σ} (known : P v) : Came answer s P (.error cause) v

variable {request : Request} {answer : Response} {s : σ} {P : σ → Prop}

/-- **Asking over a connection that may fail.** -/
theorem meets_ask (permits : C.Permits peer request t.peer)
    (acted : peer request t.peer = (.ok answer, s)) (before : P t.peer) (after : P s) :
    (ask request : Dialogue ε Reply).Meets (schedule.environment peer contents) C.clocked
      (fun reply u => Came answer s P reply.outcome u.peer) t := by
  let R : Except HttpError Response × σ → Prop := fun r => C.good r.2 ∧ Came answer s P r.1 r.2
  -- a failure says nothing about whether the peer has acted, so `P` is needed on both sides
  have reached : R (exchanged peer request t.peer (schedule.exchange t.exchanges)) := by
    have good := permits.after
    rw [acted] at good
    apply exchanged_cases
    · intro cause
      exact ⟨permits.before, .failed cause before⟩
    · intro cause
      rw [acted]
      exact ⟨good, .failed cause after⟩
    · rw [acted]
      exact ⟨good, .heard⟩
  exact ⟨permits.before, permits.admits, reached.1, reached.2⟩

section Next

variable {α : Type} {k : Except HttpError Response → Dialogue UploadEvent α} {Q : α → Clocked σ → Prop}

/-- To go on after an exchange is to go on after a failure, or with the answer. -/
theorem Came.meets {outcome : Except HttpError Response} {u : Clocked σ}
    (came : Came answer s P outcome u.peer) (good : C.good u.peer)
    (failed : ∀ cause u, C.good u.peer → P u.peer →
      (k (.error cause)).Meets (schedule.environment peer contents) C.clocked Q u)
    (heard : ∀ u, C.good u.peer → u.peer = s →
      (k (.ok answer)).Meets (schedule.environment peer contents) C.clocked Q u) :
    (k outcome).Meets (schedule.environment peer contents) C.clocked Q u := by
  generalize reached : u.peer = v at came
  cases came with
  | heard => exact heard u good reached
  | failed cause known => exact failed cause u good (reached ▸ known)

/-- **An exchange, and what comes next.** -/
theorem meets_exchange (P : σ → Prop) (permits : C.Permits peer request t.peer)
    (acted : peer request t.peer = (.ok answer, s)) (before : P t.peer) (after : P s)
    (failed : ∀ cause u, C.good u.peer → P u.peer →
      (k (.error cause)).Meets (schedule.environment peer contents) C.clocked Q u)
    (heard : ∀ u, C.good u.peer → u.peer = s →
      (k (.ok answer)).Meets (schedule.environment peer contents) C.clocked Q u) :
    (Depot.exchange request >>= k).Meets (schedule.environment peer contents) C.clocked Q t := by
  rw [Depot.exchange, Dialogue.meets_bind, Dialogue.meets_bind]
  refine (meets_ask permits acted before after).mono ?_
  intro reply u good came
  rw [Dialogue.meets_pure]
  exact ⟨good, came.meets good failed heard⟩

/-- Sending bytes of the file is an exchange like any other; the reports are for others to read. -/
theorem meets_deliver (P : σ → Prop) {session : Session} {start length : Nat} {data : Bytes}
    (permits : C.Permits peer (request.withBody (.bytes data)).withProgress t.peer)
    (acted : peer (request.withBody (.bytes data)).withProgress t.peer = (.ok answer, s))
    (before : P t.peer) (after : P s)
    (failed : ∀ cause u, C.good u.peer → P u.peer →
      (k (.error cause)).Meets (schedule.environment peer contents) C.clocked Q u)
    (heard : ∀ u, C.good u.peer → u.peer = s →
      (k (.ok answer)).Meets (schedule.environment peer contents) C.clocked Q u) :
    (deliver session start data length request >>= k).Meets (schedule.environment peer contents)
      C.clocked Q t := by
  rw [deliver, Dialogue.meets_bind, Dialogue.meets_bind]
  refine (meets_ask permits acted before after).mono ?_
  intro reply u good came
  rw [Dialogue.meets_bind, Dialogue.meets_tellAll, Dialogue.meets_pure]
  exact ⟨good, good, came.meets good failed heard⟩

end Next

/-- **A read, and what comes next**: a read leaves the peer alone, and may fail. -/
theorem meets_read {α : Type} {k : Except IoError Bytes → Dialogue ε α} {Q : α → Clocked σ → Prop}
    {source : ByteSource} {start stop : Nat} {data : Bytes} (good : C.good t.peer)
    (holds : source.readRange contents start stop = .ok data)
    (failed : ∀ cause u, u.peer = t.peer →
      (k (.error cause)).Meets (schedule.environment peer contents) C.clocked Q u)
    (works : ∀ u, u.peer = t.peer →
      (k (.ok data)).Meets (schedule.environment peer contents) C.clocked Q u) :
    (fetch source start stop >>= k).Meets (schedule.environment peer contents) C.clocked Q t := by
  rw [Dialogue.meets_bind]
  refine ⟨good, good, ?_⟩
  rcases reading : schedule.reading t.reads with - | cause
  · have outcome : ((schedule.environment peer contents).read source start stop t).1 = .ok data := by
      simp only [environment, reading, holds]
    rw [outcome]
    exact works _ rfl
  · have outcome : ((schedule.environment peer contents).read source start stop t).1 = .error cause := by
      simp only [environment, reading]
    rw [outcome]
    exact failed cause _ rfl

end Schedule

end Depot
