import Depot.Http.Response

/-!
# What the server grants to an upload

The documents with which the server answers while a file is uploaded, and how they are read.

* `SignedRequest`: a request that the server has signed, to be sent to the storage provider as it stands;
* `StorageGrant`: a signed request with what it is good for;
* `Opening`: the upload that an initiation has opened;
* `readOffset`: how far a server-mediated upload has come.

`SignedRequest.toRequest` turns a signed request into a request; it fails only on a method that is none.
-/

namespace Depot

open Json (Document)
open Json.Document (fields required withDefault optional)

/-- A request that the server has signed. -/
structure SignedRequest where
  method : String
  url : String
  headers : Dictionary String
  deriving DecidableEq

namespace SignedRequest

instance : Inhabited SignedRequest := ⟨"", "", .empty⟩

def read? (d : Document) : Option SignedRequest := do
  match ← fields ["method", "url", "headers"] d with
  | [method, url, headers] =>
    return {
      method := ← required Document.string? method
      url := ← required Document.string? url
      headers := ← withDefault .empty (Document.dictionary? Document.string?) headers }
  | _ => none

/-- The request to send; the header fields go in the order of their names. -/
def toRequest? (s : SignedRequest) : Option Request :=
  if isToken (asciiUpper s.method) then
    some { Request.absolute (asciiUpper s.method) s.url with headers := s.headers.entries }
  else none

end SignedRequest

/-- What a signed request is good for. -/
structure StorageGrant where
  /-- The file goes up in several parts. -/
  chunked : Bool
  /-- How many bytes the request may carry. -/
  chunkLength : Option Nat
  request : SignedRequest
  deriving DecidableEq

namespace StorageGrant

def read? (d : Document) : Option StorageGrant := do
  match ← fields ["chunked", "chunkLength", "request"] d with
  | [chunked, chunkLength, request] =>
    return {
      chunked := ← withDefault false Document.bool? chunked
      chunkLength := ← withDefault none (optional Document.nat?) chunkLength
      request := ← required SignedRequest.read? request }
  | _ => none

/-- The grant for one part, which stands alone in its document. -/
def readPart? (d : Document) : Option StorageGrant := do
  match ← fields ["s3"] d with
  | [grant] => required read? grant
  | _ => none

end StorageGrant

/-- An upload that has been opened. -/
structure Opening where
  id : String
  behavior : Option String
  storage : Option StorageGrant
  size : Option Nat
  received : Option Nat
  deriving DecidableEq

/-- The upload that a document opens. -/
def Opening.read? (d : Document) : Option Opening := do
  match ← fields ["_id", "behavior", "s3", "size", "received"] d with
  | [id, behavior, storage, size, received] =>
    return {
      id := ← required Document.string? id
      behavior := ← withDefault none (optional Document.string?) behavior
      storage := ← withDefault none (optional StorageGrant.read?) storage
      size := ← withDefault none (optional Document.nat?) size
      received := ← withDefault none (optional Document.nat?) received }
  | _ => none

/-- How many bytes of an upload the server has. -/
def readOffset? (d : Document) : Option Nat := do
  match ← fields ["offset"] d with
  | [offset] => required Document.nat? offset
  | _ => none

end Depot
