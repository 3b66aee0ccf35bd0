/-!
# A bus for events

Everything that is emitted on a `Bus` reaches everyone who subscribed before.  Emitting never waits: the bus
keeps only as many events as it has room for, and a receiver that falls further behind than that is told
how many events it has lost before it gets the ones that are still there.

The room is a power of two, at least as large as asked for.
-/

namespace Depot

/-- What a receiver gets. -/
inductive Delivery (α : Type) where
  | event (event : α)
  /-- So many events were lost. -/
  | lagged (lost : Nat)
  deriving DecidableEq

/-- Events on their way to the receivers. -/
structure Bus (α : Type) where
  /-- How many events are kept. -/
  room : Nat
  /-- How many events have been emitted. -/
  count : Nat
  /-- The last of them, the latest first. -/
  recent : List α

/-- Someone who listens: how many of the events it need not get any more. -/
structure Receiver where
  position : Nat
  deriving DecidableEq

namespace Bus

variable {α : Type}

/-- A bus with room for at least so many events. -/
def withRoom (capacity : Nat) : Bus α := ⟨(max capacity 1).nextPowerOfTwo, 0, []⟩

/-- How many events are kept unless asked otherwise. -/
def defaultRoom : Nat := 256

/-- A bus with the usual room. -/
def new : Bus α := withRoom defaultRoom

instance : Inhabited (Bus α) := ⟨new⟩

/-- Emit an event. -/
def emit (bus : Bus α) (event : α) : Bus α :=
  { bus with count := bus.count + 1, recent := (event :: bus.recent).take bus.room }

/-- Emit some events in their order. -/
def emitAll (bus : Bus α) (events : List α) : Bus α := events.foldl emit bus

/-- Listen to everything from now on. -/
def subscribe (bus : Bus α) : Receiver := ⟨bus.count⟩

/-- All that waits for a receiver, and the receiver without it. -/
def drain (bus : Bus α) (r : Receiver) : List (Delivery α) × Receiver :=
  let waiting := bus.count - r.position
  let kept := ((bus.recent.take waiting).reverse).map Delivery.event
  (if bus.room < waiting then .lagged (waiting - bus.room) :: kept else kept, bus.subscribe)

end Bus

end Depot
