import Depot.Peer.ChunkServer
import Depot.Peer.DirectStorage
import Depot.Peer.WholeStorage

/-!
# Whoever takes an upload

The bytes of an upload travel in one of three ways, and which one it is, the server decides when it opens the
upload.  A `Destination` is an honest server of one of the three kinds, together with the storage to which it
sends its clients.
-/

namespace Depot

/-- An honest server, with the storage behind it. -/
inductive Destination where
  /-- The bytes go through the server, in chunks. -/
  | chunks (server : ChunkServer)
  /-- They go straight to storage, in one request. -/
  | whole (storage : WholeStorage)
  /-- They go straight to storage, in parts. -/
  | parts (storage : DirectStorage)

namespace Destination

/-- What there is of an upload. -/
def State : Destination → Type
  | chunks _ => ChunkServer.Store
  | whole _ => WholeStorage.Vault
  | parts _ => DirectStorage.Vault

/-- No upload has been opened. -/
def start : (place : Destination) → place.State
  | chunks _ => ChunkServer.Store.empty
  | whole _ => WholeStorage.Vault.empty
  | parts _ => DirectStorage.Vault.empty

/-- The destination, as whoever asks meets it. -/
def peer : (place : Destination) → Peer place.State
  | chunks server => server.peer
  | whole storage => storage.peer
  | parts storage => storage.peer

/-- The record of the file. -/
def record : Destination → Record
  | chunks server => server.record
  | whole storage => storage.record
  | parts storage => storage.record

/-- The bytes that the destination has for a file. -/
def file? : (place : Destination) → place.State → Option Bytes
  | chunks _, store => some store.bytes
  | whole _, vault => vault.object
  | parts _, vault => vault.object

/-- No part is granted without a single byte, unless the file has none. -/
def Generous (content : Bytes) : Destination → Prop
  | chunks _ => True
  | whole _ => True
  | parts storage => content ≠ [] → ∀ turn number grant,
    (storage.grant turn number).read StorageGrant.readPart? = .ok grant → grant.chunkLength ≠ some 0

end Destination

end Depot
