import Depot.Http.Response
import Depot.Upload.Source

/-!
# Talking to the outside

What the library does is written as a *dialogue*: it sends a request and goes on with the reply, reads a
range of a file and goes on with the bytes, tells an event, and in the end has a value.  A dialogue decides
nothing about the other side, so one and the same definition

* is run against a peer that answers by rule (`Dialogue.run`), which gives the value, the peer's state and
  the log of all that happened;
* is followed along every possible answer (`Dialogue.Leads`, and `Dialogue.Always` for what holds whatever
  is answered).

A dialogue is a well-founded tree: along every line of answers it comes to an end.
-/

namespace Depot

/-- What to do next, and how to go on with the outcome. -/
inductive Dialogue (ε : Type) (α : Type) where
  /-- The end, with a value. -/
  | done (value : α)
  /-- Tell an event. -/
  | emit (event : ε) (next : Dialogue ε α)
  /-- Read a range of a source. -/
  | read (source : ByteSource) (start stop : Nat) (next : Except IoError Bytes → Dialogue ε α)
  /-- Send a request. -/
  | send (request : Request) (next : Reply → Dialogue ε α)

namespace Dialogue

variable {ε α β : Type}

/-- Do the first, then what its value says. -/
def bind : Dialogue ε α → (α → Dialogue ε β) → Dialogue ε β
  | done a, k => k a
  | emit e next, k => emit e (next.bind k)
  | read source start stop next, k => read source start stop fun r => (next r).bind k
  | send request next, k => send request fun r => (next r).bind k

instance : Monad (Dialogue ε) where
  pure := done
  bind := bind

instance [Inhabited α] : Inhabited (Dialogue ε α) := ⟨done default⟩

/-- Send a request. -/
def ask (request : Request) : Dialogue ε Reply := send request done

/-- Read a range of a source. -/
def fetch (source : ByteSource) (start stop : Nat) : Dialogue ε (Except IoError Bytes) :=
  read source start stop done

/-- Tell an event. -/
def tell (event : ε) : Dialogue ε Unit := emit event (done ())

/-- Tell some events in their order. -/
def tellAll : List ε → Dialogue ε Unit
  | [] => done ()
  | e :: rest => emit e (tellAll rest)

/-- The same dialogue with other events. -/
def mapEvents {δ : Type} (f : ε → δ) : Dialogue ε α → Dialogue δ α
  | done a => done a
  | emit e next => emit (f e) (next.mapEvents f)
  | read source start stop next => read source start stop fun r => (next r).mapEvents f
  | send request next => send request fun r => (next r).mapEvents f

/-! ### Along every line of answers -/

/-- One thing that happened. -/
inductive Happening (ε : Type) where
  | sent (request : Request) (reply : Reply)
  | read (source : ByteSource) (start stop : Nat) (outcome : Except IoError Bytes)
  | told (event : ε)

/-- The dialogue can come to this end with this log. -/
inductive Leads : Dialogue ε α → List (Happening ε) → α → Prop where
  | done (a : α) : Leads (done a) [] a
  | emit {e : ε} {next : Dialogue ε α} {log : List (Happening ε)} {a : α} :
      Leads next log a → Leads (emit e next) (.told e :: log) a
  | read {source : ByteSource} {start stop : Nat} {next : Except IoError Bytes → Dialogue ε α}
      {log : List (Happening ε)} {a : α} (outcome : Except IoError Bytes) :
      Leads (next outcome) log a →
      Leads (read source start stop next) (.read source start stop outcome :: log) a
  | send {request : Request} {next : Reply → Dialogue ε α} {log : List (Happening ε)} {a : α}
      (reply : Reply) :
      Leads (next reply) log a → Leads (send request next) (.sent request reply :: log) a

/-- A property of the end that holds whatever is answered. -/
def Always (P : α → Prop) : Dialogue ε α → Prop
  | done a => P a
  | emit _ next => next.Always P
  | read _ _ _ next => ∀ outcome, (next outcome).Always P
  | send _ next => ∀ reply, (next reply).Always P

/-! ### Against a peer -/

/-- The other side, as far as a dialogue sees it: it answers requests and hands out bytes, and may change
while it does. -/
structure Environment (σ : Type) where
  send : Request → σ → Reply × σ
  read : ByteSource → Nat → Nat → σ → Except IoError Bytes × σ

/-- What a dialogue comes to. -/
structure Result (σ ε α : Type) where
  value : α
  peer : σ
  log : List (Happening ε)

/-- Run a dialogue against the other side. -/
def run {σ : Type} (env : Environment σ) : Dialogue ε α → σ → Result σ ε α
  | done a, s => ⟨a, s, []⟩
  | emit e next, s =>
    let r := next.run env s
    { r with log := .told e :: r.log }
  | read source start stop next, s =>
    let (outcome, s) := env.read source start stop s
    let r := (next outcome).run env s
    { r with log := .read source start stop outcome :: r.log }
  | send request next, s =>
    let (reply, s) := env.send request s
    let r := (next reply).run env s
    { r with log := .sent request reply :: r.log }

/-! ### Reading a log -/

/-- The requests of a log, in their order. -/
def requests (log : List (Happening ε)) : List Request :=
  log.filterMap fun
    | .sent request _ => some request
    | _ => none

/-- The events of a log, in their order. -/
def events (log : List (Happening ε)) : List ε :=
  log.filterMap fun
    | .told e => some e
    | _ => none

end Dialogue

end Depot
