import Depot.Http.Error
import Depot.Http.Request
import Depot.Url.Reference

/-!
# The API of a server

All paths are resolved under the root of the API; a slash is put behind its text.  `Api.prepare` is what
happens to a request before anything is sent: the address is found, what cannot be sent is refused, and what
comes out is the address that is asked for.

The causes for a refusal are looked at in the order in which a request is built: its address, the host in
it, the header fields with the token of the session, and the scheme.

The token goes with every path, wherever a path leads (see `Url.join`), and with no absolute address.
-/

namespace Depot

/-- The server as a client knows it. -/
structure Api where
  root : Url
  /-- How the client calls itself. -/
  userAgent : String

namespace Api

def defaultUserAgent : String := "girder-client/0.4.0"

/-- An empty name is none. -/
def resolveUserAgent : Option String → String
  | none => defaultUserAgent
  | some custom => if custom.isEmpty then defaultUserAgent else custom

/-- The header field with the token of the session. -/
def tokenHeader : String := "Girder-Token"

/-- The text can be the value of a header field. -/
def isHeaderValue (s : String) : Bool :=
  s.toList.all fun c => c = '\t' || (0x20 ≤ c.toNat && c.toNat ≠ 0x7F)

/-- A request that cannot be built, for a reason that is not told. -/
def unbuildable : HttpError := .request "builder error"

/-- A request that cannot be built for this address. -/
def unbuildableFor (u : Url) : HttpError := .request s!"builder error for url ({u})"

/-- The root with this address; a slash is put behind it unless it ends with one. -/
def readRoot (text : String) : Except HttpError Url :=
  let slashed := if text.toList.getLast? = some '/' then text else text ++ "/"
  match Url.read slashed with
  | .ok root => .ok root
  | .error e => .error (.request s!"bad API url {text}: {e.message}")

/-- The API at an address. -/
def new (root : String) (userAgent : Option String) : Except HttpError Api :=
  let userAgent := resolveUserAgent userAgent
  if isHeaderValue userAgent then (readRoot root).map fun root => { root, userAgent }
  else .error unbuildable

/-- The address of a target.  Slashes at the beginning of a path do not lead out of the root. -/
def resolve (api : Api) : Target → Except HttpError Url
  | .path path =>
    match api.root.join (String.ofList (path.toList.dropWhile (· = '/'))) with
    | .ok u => .ok u
    | .error e => .error (.request s!"bad path {path}: {e.message}")
  | .url url =>
    match Url.read url with
    | .ok u => .ok u
    | .error e => .error (.request s!"bad url {url}: {e.message}")

/-- The address names a host. -/
def hasHost (u : Url) : Bool :=
  match u.authority with
  | some a => a.host ≠ .name []
  | none => false

/-- The address can be asked for: by the protocol of the web, at a host whose name consists of the
characters that may stand in a request, and in no more bytes than that may have. -/
def isAskable (u : Url) : Bool :=
  (u.scheme = "http".toList || u.scheme = "https".toList)
    && (match u.authority with
      | some a => !a.host.write.any fun c => "\"`\x7b\x7d".toList.contains c
      | none => false)
    && u.write.length ≤ 65534

/-- The header fields of a request, the token of the session among them. -/
def headerFields (token : Option String) (r : Request) : List (String × String) :=
  match r.isApiRequest, token with
  | true, some token => r.headers ++ [(tokenHeader, token)]
  | _, _ => r.headers

/-- The address that is asked for, unless the request cannot be built. -/
def prepare (api : Api) (token : Option String) (r : Request) : Except HttpError Url := do
  let target ← api.resolve r.target
  if !hasHost target then throw (unbuildableFor target)
  let address := target.withoutLogin.addQuery r.query
  if !(headerFields token r).all fun h => isToken h.1 && isHeaderValue h.2 then throw unbuildable
  if !isAskable address then throw (unbuildableFor address)
  return address

/-- What becomes of a request when nobody answers. -/
def attempt (api : Api) (token : Option String) (r : Request) : HttpError :=
  match api.prepare token r with
  | .ok address => .connection s!"error sending request for url ({address})"
  | .error e => e

end Api

end Depot
