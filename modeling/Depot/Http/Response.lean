import Depot.Http.Error
import Depot.Http.Request
import Depot.Json.Fields
import Depot.Json.Printer
import Depot.Record

/-!
# Responses

The answer to a request that succeeded: status, header fields and body.  Names of header fields are kept in
lower case and are looked up in any case.  The readers of the body fail with one and the same error,
`HttpError.malformed`, whatever is wrong with it.

`Reply` is what a request comes back with as a whole: how much of the body was reported as sent, in the
order of the reports, and then an answer or a failure.
-/

namespace Depot

/-- An answer that is a success. -/
structure Response where
  status : Nat
  /-- The names are in lower case. -/
  headers : Dictionary String
  body : Bytes
  deriving DecidableEq

namespace Response

def new (status : Nat) : Response := ⟨status, .empty, []⟩

instance : Inhabited Response := ⟨new 200⟩

def withHeader (r : Response) (name value : String) : Response :=
  { r with headers := r.headers.insert (asciiLower name) value }

def withBody (r : Response) (body : Bytes) : Response := { r with body }

/-- An answer with a JSON document. -/
def ofJson (value : Json) : Response :=
  ((new 200).withHeader "content-type" "application/json").withBody (Utf8.encode (value.write []))

def isSuccess (r : Response) : Bool := 200 ≤ r.status ∧ r.status < 300

/-- A header field, its name in any case. -/
def header? (r : Response) (name : String) : Option String := r.headers.get? (asciiLower name)

/-! ### Reading the body -/

/-- The body, read as typed data. -/
def read {α : Type} (reader : Json.Document → Option α) (r : Response) : Except HttpError α :=
  match (Json.Document.ofBytes r.body).bind reader with
  | some value => .ok value
  | none => .error .malformed

/-- The body as a value. -/
def json (r : Response) : Except HttpError Json := r.read (·.keep Json.Document.depthLimit)

/-- The body as a record. -/
def record (r : Response) : Except HttpError Record := r.read (·.record?)

/-- The body as a list of records. -/
def records (r : Response) : Except HttpError (List Record) := r.read (·.records?)

/-- The body as text. -/
def text (r : Response) : Except HttpError String :=
  match Utf8.toString? r.body with
  | some s => .ok s
  | none => .error .malformed

end Response

/-- What a request comes back with. -/
structure Reply where
  /-- The reports on the body, each with the bytes sent so far and all its bytes. -/
  progress : List (Nat × Nat)
  outcome : Except HttpError Response

namespace Reply

def ok (r : Response) : Reply := ⟨[], .ok r⟩
def error (e : HttpError) : Reply := ⟨[], .error e⟩

instance : Inhabited Reply := ⟨ok default⟩

end Reply

end Depot
