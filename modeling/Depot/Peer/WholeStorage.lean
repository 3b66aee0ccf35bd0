import Depot.Peer.Fault
import Depot.Peer.Listing
import Depot.Peer.Route
import Depot.Upload.Grant

/-!
# A server that has its clients store a file in one request

The two peers of an upload whose bytes go straight to storage in one signed request.  The server opens the
upload, signs a new request whenever it is asked for one, and gives the record of the file when it is told
that the file is stored, if what is stored has the length that was announced.  The storage takes the body of
a signed request as a whole, in place of what was there.

A signed request is known by its ticket, a number that no other one has.  The storage takes the ticket that
was issued last, as long as nothing has come with it; whether it takes a ticket twice, or an older one, is
its own affair.  A `WholeStorage` is how the answers are worded and which tickets are taken; that they say
what they should is part of it.  What server and storage know of an upload is their `Vault`.
-/

namespace Depot

open Listing (queryNatural)
open Route (asksLanded isCompletion isInitiation)

/-- The signed request can be sent, and has this ticket; `ticket` reads it off a method and an address. -/
def SignedRequest.Bears (signed : SignedRequest) (ticket : (method url : String) → Option Nat)
    (number : Nat) : Prop :=
  isToken (asciiUpper signed.method) ∧ ticket (asciiUpper signed.method) signed.url = some number

/-- The answer opens an upload whose bytes go straight to storage in one request, the one with this ticket. -/
def Response.OpensWhole (r : Response) (ticket : (method url : String) → Option Nat)
    (number : Nat) : Prop :=
  ∃ record opening grant, r.record = .ok record ∧ record.modelType? ≠ some "file" ∧
    Opening.read? (.ofValue record.toJson) = some opening ∧ opening.behavior = some "s3" ∧
      opening.storage = some grant ∧ grant.chunked = false ∧ grant.request.Bears ticket number

/-- The answer is the signed request with this ticket. -/
def Response.Signs (r : Response) (ticket : (method url : String) → Option Nat) (number : Nat) : Prop :=
  ∃ signed, r.read SignedRequest.read? = .ok signed ∧ signed.Bears ticket number

/-- What the server and the storage have of an upload. -/
structure WholeStorage.Vault where
  /-- The ticket that was issued last. -/
  issued : Nat
  /-- Nothing has come with that ticket. -/
  fresh : Bool
  /-- How many bytes were announced. -/
  size : Nat
  object : Option Bytes

/-- The words of a server and a storage, and the tickets that are taken. -/
structure WholeStorage where
  ticket : (method url : String) → Option Nat
  /-- The record of the file. -/
  record : Record
  opening : (number : Nat) → Response
  signature : (number : Nat) → Response
  completion : Response
  /-- The storage's answer to a body. -/
  stored : Response
  refusal : HttpError
  takes : WholeStorage.Vault → (number : Nat) → Bool
  opens : ∀ number, (opening number).OpensWhole ticket number
  signs : ∀ number, (signature number).Signs ticket number
  completes : completion.record = .ok record
  takes_issued : ∀ v, v.fresh = true → takes v v.issued = true

namespace WholeStorage

namespace Vault

/-- No upload has been opened. -/
def empty : Vault := ⟨0, false, 0, none⟩

/-- Issue a new ticket. -/
def issue (v : Vault) : Vault := { v with issued := v.issued + 1, fresh := true }

/-- Keep what has come with a ticket. -/
def store (v : Vault) (number : Nat) (body : Bytes) : Vault :=
  { v with fresh := v.fresh && number != v.issued, object := some body }

end Vault

variable (w : WholeStorage)

/-- The server. -/
def serve (request : Request) (v : Vault) : Except HttpError Response × Vault :=
  if asksLanded request then (.ok (w.signature v.issue.issued), v.issue)
  else if isCompletion request then
    (if v.object.map List.length = some v.size then .ok w.completion else .error w.refusal, v)
  else if isInitiation request then
    (.ok (w.opening v.issue.issued),
      { v.issue with size := queryNatural request "size", object := none })
  else (.error w.refusal, v)

/-- The storage. -/
def keep (request : Request) (v : Vault) : Except HttpError Response × Vault :=
  match w.ticket request.method request.target.text, request.body with
  | some number, .bytes data =>
    if w.takes v number then (.ok w.stored, v.store number data) else (.error w.refusal, v)
  | _, _ => (.error w.refusal, v)

/-- Both, as whoever asks meets them. -/
def peer : Peer Vault := fun request v =>
  if request.isApiRequest then w.serve request v else w.keep request v

end WholeStorage

end Depot
