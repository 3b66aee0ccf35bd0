import Depot.Record

/-!
# Events

What the library tells to whoever listens: a collection changed what it shows, or an upload came a step
further.  Events of one upload carry the identity of its session.
-/

namespace Depot

/-- The identity of an upload session: number one is the first session, number zero is none. -/
structure SessionId where
  number : Nat
  deriving DecidableEq

namespace SessionId

/-- The identity of no session. -/
def nil : SessionId := ⟨0⟩

instance : Inhabited SessionId := ⟨nil⟩

end SessionId

/-- What a collection tells. -/
inductive CollectionEvent where
  /-- The collection shows other records. -/
  | changed (resource : String) (count offset : Nat) (reset : Bool)
  deriving DecidableEq

/-- What an upload tells. -/
inductive UploadEvent where
  /-- Bytes of the file were acknowledged: how many just now, and up to which one altogether. -/
  | chunkSent (session : SessionId) (bytes acknowledged : Nat)
  /-- Bytes of the chunk that starts at `startByte` have been handed to the connection. -/
  | progress (session : SessionId) (startByte loaded total : Nat)
  /-- The file is there. -/
  | complete (session : SessionId) (file : Record)
  /-- A transfer failed and may be resumed. -/
  | error (session : SessionId) (message : String) (status : Option Nat)
  /-- The upload could not be started. -/
  | errorStarting (session : SessionId) (message : String) (identifier : Option String)
      (status : Option Nat)
  deriving DecidableEq

/-- The session that an event is about. -/
def UploadEvent.session : UploadEvent → SessionId
  | chunkSent s _ _ => s
  | progress s _ _ _ => s
  | complete s _ => s
  | error s _ _ => s
  | errorStarting s _ _ _ => s

/-- Any event. -/
inductive Event where
  | collection (event : CollectionEvent)
  | upload (event : UploadEvent)
  deriving DecidableEq

end Depot
