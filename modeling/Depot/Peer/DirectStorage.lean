import Depot.Peer.Fault
import Depot.Peer.Manifest
import Depot.Peer.Route
import Depot.Upload.Step

/-!
# A server that sends its clients to storage

The two peers of an upload whose bytes go straight to storage in parts.  The server opens the upload, signs a
request for every part, and signs one for the manifest.  The storage keeps each part under its number, the
last body of a number in place of an earlier one, and gives it a tag; the manifest makes the object of the
parts that it lists, and is refused if a listed tag is not the one that the part has.

A `DirectStorage` is how the answers are worded; that they say what they should is part of it.  Wordings may
differ from one answer to the next: the server may grant another length when a part is authorized again, and
the storage may name an upload or tag a part as it likes.  What the storage has is its `Vault`.
-/

namespace Depot

open Route (isInitiation isChunk isCompletion)

/-- What a signed request asks of the storage. -/
inductive Errand where
  /-- To open an upload. -/
  | opening
  /-- To keep the part with this number. -/
  | part (number : Nat)
  /-- To make the object of the parts in a manifest. -/
  | assembly
  deriving DecidableEq

/-- The signed request can be sent, and asks for this; `errand` says what the storage makes of a method and
an address. -/
def SignedRequest.AsksFor (signed : SignedRequest) (errand : (method url : String) → Option Errand)
    (wanted : Errand) : Prop :=
  isToken (asciiUpper signed.method) ∧ errand (asciiUpper signed.method) signed.url = some wanted

/-- The answer opens an upload whose bytes go straight to storage in parts. -/
def Response.OpensParts (r : Response) (errand : (method url : String) → Option Errand) : Prop :=
  ∃ record opening grant, r.record = .ok record ∧ record.modelType? ≠ some "file" ∧
    Opening.read? (.ofValue record.toJson) = some opening ∧ opening.behavior = some "s3" ∧
      opening.storage = some grant ∧ grant.chunked = true ∧ grant.request.AsksFor errand .opening

/-- The answer grants the part with this number, at whatever length. -/
def Response.GrantsPart (r : Response) (errand : (method url : String) → Option Errand)
    (number : Nat) : Prop :=
  ∃ grant, r.read StorageGrant.readPart? = .ok grant ∧ grant.request.AsksFor errand (.part number)

/-- The answer holds the record of the file, and a request for the manifest. -/
def Response.Finalizes (r : Response) (errand : (method url : String) → Option Errand)
    (file : Record) : Prop :=
  ∃ record signed, r.record = .ok record ∧ readFinalization record = .ok (file, signed) ∧
    signed.AsksFor errand .assembly

/-- The words of a server and a storage.  What differs between answers depends on the turn. -/
structure DirectStorage where
  errand : (method url : String) → Option Errand
  /-- The record of the file. -/
  record : Record
  opening : Response
  grant : (turn number : Nat) → Response
  completion : (turn : Nat) → Response
  /-- The storage's answer to the request that opens the upload. -/
  opened : (turn : Nat) → Response
  /-- The tag that a part is given. -/
  tag : (turn : Nat) → String
  /-- The answer to a part. -/
  stored : (tag : String) → Response
  /-- The answer to a manifest. -/
  assembled : Response
  refusal : HttpError
  opens : opening.OpensParts errand
  grants : ∀ turn number, (grant turn number).GrantsPart errand number
  finalizes : ∀ turn, (completion turn).Finalizes errand record
  names : ∀ turn, ∃ id, readStorageId (opened turn) = .ok id
  tags : ∀ tag, (stored tag).header? "etag" = some tag

namespace DirectStorage

/-- What the storage has. -/
structure Vault where
  /-- How many requests have been answered. -/
  turn : Nat
  /-- The body and the tag of every part. -/
  parts : Nat → Option (Bytes × String)
  object : Option Bytes

namespace Vault

/-- Nothing has been stored. -/
def empty : Vault := ⟨0, fun _ => none, none⟩

/-- One more request has been answered. -/
def next (v : Vault) : Vault := { v with turn := v.turn + 1 }

/-- Keep a part, in place of an earlier one with its number. -/
def store (v : Vault) (number : Nat) (body : Bytes) (tag : String) : Vault :=
  { v with parts := fun n => if n = number then some (body, tag) else v.parts n }

/-- The bodies of the listed parts, one after the other, if each has the tag that is listed. -/
def joined (v : Vault) : List (Nat × String) → Option Bytes
  | [] => some []
  | (number, tag) :: rest =>
    match v.parts number with
    | some (body, current) => if tag = current then (v.joined rest).map (body ++ ·) else none
    | none => none

end Vault

/-- The number of the part that is to be authorized. -/
def partNumber? (request : Request) : Option Nat :=
  match request.body with
  | .json value =>
    match value.get? "partNumber" with
    | some (.int n) => some n.toNat
    | _ => none
  | _ => none

/-- The object that a manifest makes. -/
def assembly (request : Request) (v : Vault) : Option Bytes :=
  match request.body with
  | .text manifest => (Manifest.read? manifest).bind v.joined
  | _ => none

variable (d : DirectStorage)

/-- The request brings a manifest. -/
def isManifest (request : Request) : Bool :=
  !request.isApiRequest && d.errand request.method request.target.text = some .assembly

/-- The server. -/
def serve (request : Request) (v : Vault) : Except HttpError Response × Vault :=
  if isChunk request then
    match partNumber? request with
    | some number => (.ok (d.grant v.turn number), v.next)
    | none => (.error d.refusal, v.next)
  else if isCompletion request then (.ok (d.completion v.turn), v.next)
  else if isInitiation request then (.ok d.opening, v.next)
  else (.error d.refusal, v.next)

/-- The storage. -/
def keep (request : Request) (v : Vault) : Except HttpError Response × Vault :=
  match d.errand request.method request.target.text with
  | some .opening => (.ok (d.opened v.turn), { v.next with parts := fun _ => none })
  | some (.part number) =>
    match request.body with
    | .bytes data => (.ok (d.stored (d.tag v.turn)), v.next.store number data (d.tag v.turn))
    | _ => (.error d.refusal, v.next)
  | some .assembly =>
    match assembly request v with
    | some object => (.ok d.assembled, { v.next with object := some object })
    | none => (.error d.refusal, v.next)
  | none => (.error d.refusal, v.next)

/-- Both, as whoever asks meets them. -/
def peer : Peer Vault := fun request v =>
  if request.isApiRequest then d.serve request v else d.keep request v

end DirectStorage

end Depot
