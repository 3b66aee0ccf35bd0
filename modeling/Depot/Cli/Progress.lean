import Depot.Event.Basic
import Depot.Event.Bus

/-!
# The progress of an upload

A `ProgressBar` follows the events of an upload.  Reports on bytes move it (`position?`); the end of the
upload, good or bad, stops it with a message; everything else leaves it alone, and so do events that the
follower has lost.
-/

namespace Depot

/-- How far something has come. -/
structure ProgressBar where
  length : Nat
  position : Nat
  message : String
  finished : Bool
  deriving DecidableEq

namespace ProgressBar

/-- A bar that has not moved. -/
def new (length : Nat) : ProgressBar := ⟨length, 0, "", false⟩

/-- A message without tabs, which would move about on the screen. -/
def untabbed (s : String) : String :=
  String.ofList (s.toList.flatMap fun c => if c = '\t' then List.replicate 8 ' ' else [c])

/-- Stop at the end. -/
def finish (b : ProgressBar) (message : String) : ProgressBar :=
  { b with position := b.length, message := untabbed message, finished := true }

/-- Stop where it is. -/
def abandon (b : ProgressBar) (message : String) : ProgressBar :=
  { b with message := untabbed message, finished := true }

end ProgressBar

/-- The byte of the file to which an event moves the bar. -/
def UploadEvent.position? : UploadEvent → Option Nat
  | progress _ startByte loaded _ => some (startByte + loaded)
  | chunkSent _ _ acknowledged => some acknowledged
  | _ => none

namespace ProgressBar

/-- The bar after an event of an upload. -/
def follow (b : ProgressBar) (event : UploadEvent) : ProgressBar :=
  match event.position? with
  | some position => { b with position }
  | none =>
    match event with
    | .complete _ file => b.finish ("uploaded " ++ file.name?.getD "")
    | .errorStarting _ message _ _ => b.abandon message
    | _ => b

/-- The bar after all that its follower gets. -/
def track (b : ProgressBar) (deliveries : List (Delivery Event)) : ProgressBar :=
  deliveries.foldl (fun b d =>
    match d with
    | .event (.upload event) => b.follow event
    | _ => b) b

end ProgressBar

end Depot
