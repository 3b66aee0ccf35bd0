import Depot.Json.Document

/-!
# Failed requests

A request fails in one of four ways, and `HttpError` has one constructor for each.  Everything else about a
failure is computed from it: its message, its broad kind, the status, and what the server said about it in
a JSON body.

* `ofStatus` is how an answer other than a success becomes an error; status 0 means that no answer came.
* `kind` tells what to do about it: a lost connection may be tried again, a refusal by the server explains
  itself, everything else does not.
-/

namespace Depot

/-- What kind of failure a failed request is. -/
inductive ErrorKind where
  /-- No answer arrived. -/
  | transientNetwork
  /-- The server refused the request and said why. -/
  | serverValidation
  /-- Any other answer that is no success. -/
  | server
  /-- The request could not be built, or the answer not be read. -/
  | protocol
  deriving DecidableEq

/-- A failed request. -/
inductive HttpError where
  /-- No answer arrived. -/
  | connection (reason : String)
  /-- The answer is no success; its body is kept if it is JSON. -/
  | status (code : Nat) (body : Option Json)
  /-- The answer could not be read. -/
  | decode (reason : String)
  /-- The request could not be built. -/
  | request (reason : String)
  deriving DecidableEq

namespace HttpError

instance : Inhabited HttpError := ⟨.connection ""⟩

/-- The error of an answer with this status and body. -/
def ofStatus (code : Nat) (body : Bytes) : HttpError :=
  if code = 0 then .connection "no response from server" else .status code (Json.parse body)

/-- The error of an answer whose body is not the expected document. -/
def malformed : HttpError := .decode "not the expected document"

/-- The status, which is 0 where no answer arrived. -/
def status? : HttpError → Option Nat
  | connection _ => some 0
  | status code _ => some code
  | _ => none

/-- A text field in the JSON body of an answer. -/
def bodyText? (key : String) : HttpError → Option String
  | status _ (some body) => (body.get? key).bind Json.string?
  | _ => none

/-- What the server says about the failure. -/
def serverMessage? : HttpError → Option String := bodyText? "message"

/-- The server's name for the failure. -/
def identifier? : HttpError → Option String := bodyText? "identifier"

def kind : HttpError → ErrorKind
  | connection _ => .transientNetwork
  | e@(status code _) =>
    if 400 ≤ code ∧ code < 500 ∧ e.serverMessage?.isSome then .serverValidation else .server
  | decode _ => .protocol
  | request _ => .protocol

/-- No answer arrived. -/
def isConnection (e : HttpError) : Bool := e.kind == .transientNetwork

def message : HttpError → String
  | connection reason => s!"connection failed: {reason}"
  | e@(status code _) => s!"HTTP {code}: " ++ e.serverMessage?.getD "request failed"
  | decode reason => s!"invalid response body: {reason}"
  | request reason => s!"invalid request: {reason}"

end HttpError

end Depot
