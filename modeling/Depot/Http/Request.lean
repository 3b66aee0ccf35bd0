import Depot.Json.Basic
import Depot.Text.Utf8

/-!
# Requests

What is asked of the server or of a storage provider: a method, a target, a query, header fields, a body,
and whether whoever asks wants to hear how much of the body has been sent.  The target decides who may see
the session token: a path is resolved under the API root and carries it, an absolute address does not.
-/

namespace Depot

/-- Where a request goes. -/
inductive Target where
  /-- A path under the API root. -/
  | path (path : String)
  /-- An absolute address, as in signed storage requests. -/
  | url (url : String)
  deriving DecidableEq

/-- The path or address. -/
def Target.text : Target → String
  | path p => p
  | url u => u

/-- What a request carries. -/
inductive Body where
  | empty
  | json (value : Json)
  | form (pairs : List (String × String))
  | bytes (data : Bytes)
  | text (text : String)
  deriving DecidableEq

namespace Body

/-- The number of bytes of the body, where it is known before the body is written. -/
def length? : Body → Option Nat
  | empty => some 0
  | bytes data => some data.length
  | text s => some s.utf8ByteSize
  | json _ => none
  | form _ => none

def isEmpty (b : Body) : Bool := b.length? == some 0

end Body

/-- One request. -/
structure Request where
  method : String
  target : Target
  query : List (String × String)
  headers : List (String × String)
  body : Body
  /-- Somebody wants to hear how much of the body has been sent. -/
  reportsProgress : Bool
  deriving DecidableEq

namespace Request

/-- A request with nothing but a method and a target. -/
def new (method : String) (target : Target) : Request := ⟨method, target, [], [], .empty, false⟩

def get (path : String) : Request := new "GET" (.path path)
def post (path : String) : Request := new "POST" (.path path)
def put (path : String) : Request := new "PUT" (.path path)
def delete (path : String) : Request := new "DELETE" (.path path)

/-- A request to an absolute address. -/
def absolute (method url : String) : Request := new method (.url url)

instance : Inhabited Request := ⟨get ""⟩

def withQuery (r : Request) (key value : String) : Request :=
  { r with query := r.query ++ [(key, value)] }

def withQueryPairs (r : Request) (pairs : List (String × String)) : Request :=
  { r with query := r.query ++ pairs }

def withHeader (r : Request) (name value : String) : Request :=
  { r with headers := r.headers ++ [(name, value)] }

def withBody (r : Request) (body : Body) : Request := { r with body }

def withProgress (r : Request) : Request := { r with reportsProgress := true }

/-- The first query value of a key. -/
def queryValue? (r : Request) (key : String) : Option String := r.query.lookup key

/-- The request goes to the API, and so carries the session token. -/
def isApiRequest (r : Request) : Bool :=
  match r.target with
  | .path _ => true
  | .url _ => false

end Request

/-! ### Methods -/

/-- The characters of a method or of the name of a header field. -/
def isTokenChar (c : Char) : Bool :=
  c.isAlphanum || "!#$%&'*+-.^_`|~".toList.contains c

/-- A method or the name of a header field: some of those characters, at least one. -/
def isToken (s : String) : Bool := !s.isEmpty && s.toList.all isTokenChar

/-- A text with the letters A to Z in lower case. -/
def asciiLower (s : String) : String := String.ofList (s.toList.map Char.toLower)

/-- A text with the letters a to z in upper case. -/
def asciiUpper (s : String) : String := String.ofList (s.toList.map Char.toUpper)

end Depot
