import Depot.Peer.Fault
import Depot.Peer.Listing
import Depot.Peer.Route
import Depot.Upload.Grant

/-!
# A server that takes a file in chunks

The server of an upload that goes through it.  It opens the upload, takes every chunk that starts where the
bytes it has end, and says how many bytes it has.  A chunk for another place is refused and changes nothing.
When all bytes are there it answers with the record of the file.

A `ChunkServer` is how the answers are worded; that they say what they should is part of it.  What the server
knows of an upload is its `Store`.
-/

namespace Depot

open Listing (queryNatural)
open Route (isChunk asksLanded isInitiation)

/-- The answer opens an upload with this name, whose bytes go through the server. -/
def Response.OpensChunked (r : Response) (uploadId : String) : Prop :=
  ∃ record opening, r.record = .ok record ∧ record.modelType? ≠ some "file" ∧
    Opening.read? (.ofValue record.toJson) = some opening ∧
      opening.id = uploadId ∧ opening.behavior ≠ some "s3"

/-- The words of a server that takes chunks. -/
structure ChunkServer where
  /-- The name of the upload. -/
  uploadId : String
  opening : Response
  /-- The answer to the question how many bytes have landed. -/
  landed : Nat → Response
  /-- The answer to a chunk behind which more are to come. -/
  more : Response
  /-- The answer to the last chunk. -/
  file : Response
  /-- The record of the file. -/
  record : Record
  refusal : HttpError
  opens : opening.OpensChunked uploadId
  counts : ∀ n < limit64, (landed n).read readOffset? = .ok n
  files : file.record = .ok record

namespace ChunkServer

/-- What the server has of an upload. -/
structure Store where
  /-- How many bytes were announced. -/
  size : Nat
  bytes : Bytes

/-- No upload has been opened. -/
def Store.empty : Store := ⟨0, []⟩

/-- The chunk belongs to the upload, and starts where the bytes end that are there. -/
def fits (server : ChunkServer) (request : Request) (store : Store) : Bool :=
  request.queryValue? "uploadId" = some server.uploadId ∧
    queryNatural request "offset" = store.bytes.length

/-- Take a chunk, if it fits. -/
def take (server : ChunkServer) (request : Request) (store : Store) :
    Except HttpError Response × Store :=
  match request.body with
  | .bytes data =>
    if server.fits request store then
      let store := { store with bytes := store.bytes ++ data }
      (.ok (if store.bytes.length = store.size then server.file else server.more), store)
    else (.error server.refusal, store)
  | _ => (.error server.refusal, store)

/-- The server, as whoever asks meets it. -/
def peer (server : ChunkServer) : Peer Store := fun request store =>
  if isChunk request then server.take request store
  else if asksLanded request then (.ok (server.landed store.bytes.length), store)
  else if isInitiation request then (.ok server.opening, ⟨queryNatural request "size", []⟩)
  else (.error server.refusal, store)

end ChunkServer

end Depot
