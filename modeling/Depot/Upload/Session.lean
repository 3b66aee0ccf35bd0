import Depot.Event.Basic
import Depot.Upload.File
import Depot.Upload.Grant

/-!
# Upload sessions

A `Session` is one upload that the server has opened and that is not finished: which bytes go where, how
they travel, and how far they have come.

* `TransferMode` is how they travel: through the server in chunks; straight to storage in one request; or
  straight to storage in several parts.
* `Phase` is what has to be done next.  What that means depends on the mode: bytes that go through the
  server are authorized by asking for the offset, bytes of a single request by asking for a fresh signature.
* `Session.stepsLeft` bounds how many more steps the session can take.  Every step makes it smaller, whatever
  the peers answer, so an upload always comes to an end.

The tags of the stored parts are listed in the order of the parts, so part `k + 1` is the next one exactly
when `k` tags are there.
-/

namespace Depot

/-- A number of bytes to send at a time, at least one. -/
structure ChunkSize where
  bytes : Nat
  positive : 0 < bytes
  deriving DecidableEq

namespace ChunkSize

/-- This many bytes, but at least one. -/
def atLeastOne (bytes : Nat) : ChunkSize := ⟨max bytes 1, by omega⟩

/-- 64 MiB. -/
def default : ChunkSize := ⟨67108864, by decide⟩

instance : Inhabited ChunkSize := ⟨default⟩

end ChunkSize

/-- How far a multipart upload to storage has come. -/
structure Multipart where
  /-- The signed request that opens the upload at the provider. -/
  initiate : SignedRequest
  /-- How many bytes to ask for in one part. -/
  partSize : ChunkSize
  /-- The provider's name for the upload, once it is open. -/
  storageId : Option String
  /-- The tags of the parts that are stored, in their order. -/
  tags : List String
  /-- The finished record and the signed request for the manifest, once the server gave them out. -/
  finalize : Option (Record × SignedRequest)
  deriving DecidableEq

namespace Multipart

/-- The number of the next part; the first one is number one. -/
def nextPart (m : Multipart) : Nat := m.tags.length + 1

/-- The stored parts, each with its number and its tag. -/
def parts (m : Multipart) : List (Nat × String) := m.tags.mapIdx fun i tag => (i + 1, tag)

end Multipart

/-- How the bytes travel. -/
inductive TransferMode where
  /-- Through the server, in chunks. -/
  | server
  /-- Straight to storage, in one signed request. -/
  | single (request : SignedRequest)
  /-- Straight to storage, in signed parts and a manifest. -/
  | multipart (progress : Multipart)
  deriving DecidableEq

/-- What has to be done next. -/
inductive Phase where
  /-- Ask the server how to go on. -/
  | authorizing
  /-- Send bytes. -/
  | transferring
  /-- All bytes are sent: finish the upload. -/
  | completing
  deriving DecidableEq

/-- One upload that is under way. -/
structure Session where
  id : SessionId
  file : UploadFile
  target : UploadTarget
  /-- The server's name for the upload. -/
  uploadId : String
  /-- The first byte that has not been acknowledged. -/
  startByte : Nat
  /-- The length of the chunk that was sent last. -/
  chunkLength : Nat
  /-- What the server calls the way the bytes travel. -/
  behavior : Option String
  mode : TransferMode
  deriving DecidableEq

namespace Session

def size (s : Session) : Nat := s.file.size

/-- No more than this many steps can follow. -/
def stepsLeft (s : Session) (phase : Phase) : Nat :=
  match s.mode, phase with
  | .server, .authorizing => s.size + 3
  | .server, .transferring => s.size - s.startByte + 2
  | .server, .completing => 1
  | .single _, .authorizing => 3
  | .single _, .transferring => 2
  | .single _, .completing => 1
  | .multipart m, .transferring =>
    if m.storageId.isNone then s.size + 3 else s.size - s.startByte + 2
  | .multipart _, .authorizing => s.size + 4
  | .multipart _, .completing => 1

/-- Where a session goes on after it failed in some phase.  The server alone knows how many bytes have
landed, and a signature is good for one request only, so both are asked for again; everything else goes on
where it stopped. -/
def resumeAt (s : Session) (failedIn : Phase) : Phase :=
  match s.mode, failedIn with
  | .server, _ => .authorizing
  | .single _, .transferring => .authorizing
  | _, phase => phase

end Session

/-- What is needed to go on with a failed upload. -/
structure ResumeInfo where
  uploadId : String
  file : UploadFile
  deriving DecidableEq

end Depot
