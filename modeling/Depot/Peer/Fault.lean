import Depot.Dialogue

/-!
# Connections that fail

A `Peer` answers every request by a rule of its own.  Between it and whoever asks there is a connection, and
a `Schedule` says what goes wrong there: an exchange may fail before the peer has acted, or after it, when
only its answer is lost; and a read of the local file may fail.

Exchanges and reads are numbered as they come, so a schedule fixes all that happens in any number of calls.
-/

namespace Depot

/-- Who answers requests, and changes by it. -/
abbrev Peer (σ : Type) := Request → σ → Except HttpError Response × σ

/-- What becomes of one exchange. -/
inductive Fate where
  /-- The request arrives, and so does the answer. -/
  | carried
  /-- The peer never sees the request. -/
  | requestLost (cause : HttpError)
  /-- The peer acts, but its answer does not arrive. -/
  | replyLost (cause : HttpError)

/-- What happens on the way, by the number of the exchange or read. -/
structure Schedule where
  exchange : Nat → Fate
  /-- The reports on the body that is under way. -/
  reports : Nat → List (Nat × Nat)
  /-- The failure of a read, if it fails. -/
  reading : Nat → Option IoError

/-- A peer, and how many exchanges and reads there have been. -/
structure Clocked (σ : Type) where
  exchanges : Nat
  reads : Nat
  peer : σ

/-- At the beginning. -/
def Clocked.start {σ : Type} (peer : σ) : Clocked σ := ⟨0, 0, peer⟩

namespace Schedule

/-- Nothing goes wrong. -/
def calm : Schedule := ⟨fun _ => .carried, fun _ => [], fun _ => none⟩

/-- The outcome of one exchange, and the peer behind it. -/
def exchanged {σ : Type} (peer : Peer σ) (request : Request) (s : σ) :
    Fate → Except HttpError Response × σ
  | .carried => peer request s
  | .requestLost cause => (.error cause, s)
  | .replyLost cause => (.error cause, (peer request s).2)

/-- The other side of a client: a peer behind a connection, and a disk that holds what it holds. -/
def environment {σ : Type} (schedule : Schedule) (peer : Peer σ)
    (contents : String → Option Bytes) : Dialogue.Environment (Clocked σ) where
  send request t :=
    let (outcome, s) := exchanged peer request t.peer (schedule.exchange t.exchanges)
    (⟨schedule.reports t.exchanges, outcome⟩, { t with exchanges := t.exchanges + 1, peer := s })
  read source start stop t :=
    let outcome :=
      match schedule.reading t.reads with
      | some cause => .error cause
      | none => source.readRange contents start stop
    (outcome, { t with reads := t.reads + 1 })

end Schedule

end Depot
