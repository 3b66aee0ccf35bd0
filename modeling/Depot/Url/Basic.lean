import Depot.Url.Host

/-!
# Addresses

An address (URL) has a scheme, perhaps an authority with a login, a host and a port, then a path, and
perhaps a query and a fragment.  All parts are kept in the form in which they are written, so `Url.write`
only puts them together.

A path is a list of segments, each of which is written behind a slash, unless the scheme knows no hierarchy
(as `mailto`); then it is a plain text.
-/

namespace Depot

/-- Where things are and who asks for them. -/
structure Authority where
  username : List Char
  /-- An empty password is none. -/
  password : List Char
  host : Host
  /-- The port, unless it is the usual one of the scheme. -/
  port : Option Nat
  deriving DecidableEq

/-- Nobody in particular at a host. -/
def Authority.ofHost (host : Host) : Authority := ⟨[], [], host, none⟩

/-- Somebody is named. -/
def Authority.hasLogin (a : Authority) : Bool := !a.username.isEmpty || !a.password.isEmpty

/-- The authority as it is written. -/
def Authority.write (a : Authority) : List Char :=
  a.username
    ++ (if a.password.isEmpty then [] else ':' :: a.password)
    ++ (if a.hasLogin then ['@'] else [])
    ++ a.host.write
    ++ (match a.port with
      | some port => ':' :: Nat.toDigits 10 port
      | none => [])

/-- What is addressed at a host. -/
inductive UrlPath where
  | segments (list : List (List Char))
  /-- A text without a hierarchy. -/
  | flat (text : List Char)
  deriving DecidableEq

/-- The path as it is written. -/
def UrlPath.write : UrlPath → List Char
  | segments list => list.flatMap ('/' :: ·)
  | flat text => text

/-- An address. -/
structure Url where
  scheme : List Char
  authority : Option Authority
  path : UrlPath
  query : Option (List Char)
  fragment : Option (List Char)
  deriving DecidableEq

/-- How the addresses of a scheme are read. -/
inductive SchemeKind where
  /-- Schemes of the web: there is always a host. -/
  | web
  /-- Files, perhaps of a host. -/
  | file
  /-- All others, of which nothing is known. -/
  | other
  deriving DecidableEq

/-- The well-known schemes with their usual ports. -/
def webSchemes : List (List Char × Nat) :=
  [("http".toList, 80), ("https".toList, 443), ("ws".toList, 80), ("wss".toList, 443),
    ("ftp".toList, 21)]

/-- The usual port of a scheme. -/
def usualPort? (scheme : List Char) : Option Nat := webSchemes.lookup scheme

def schemeKind (scheme : List Char) : SchemeKind :=
  if scheme = "file".toList then .file
  else if (usualPort? scheme).isSome then .web
  else .other

/-- The character starts a segment of a path.  With the schemes of which something is known, a backslash is
as good as a slash. -/
def SchemeKind.separates (kind : SchemeKind) (c : Char) : Bool :=
  c = '/' || (c = '\\' && kind ≠ .other)

namespace Url

def kind (u : Url) : SchemeKind := schemeKind u.scheme

/-- The segments of the path. -/
def segments (u : Url) : List (List Char) :=
  match u.path with
  | .segments list => list
  | .flat _ => []

/-- There is no hierarchy in which something could be relative to the address. -/
def isFlat (u : Url) : Bool :=
  match u.path with
  | .segments list => u.authority.isNone && list.isEmpty
  | .flat _ => true

/-- A path without an authority must not look like one. -/
def guard (u : Url) : List Char :=
  match u.authority, u.path with
  | none, .segments ([] :: _ :: _) => "/.".toList
  | _, _ => []

/-- The address as it is written. -/
def write (u : Url) : List Char :=
  u.scheme ++ ':' ::
    ((match u.authority with
      | some a => "//".toList ++ a.write
      | none => u.guard)
    ++ u.path.write
    ++ (match u.query with
      | some query => '?' :: query
      | none => [])
    ++ (match u.fragment with
      | some fragment => '#' :: fragment
      | none => []))

instance : ToString Url := ⟨fun u => String.ofList u.write⟩

/-- The address with more pairs in its query. -/
def addQuery (u : Url) (pairs : List (String × String)) : Url :=
  if pairs.isEmpty then u
  else
    match u.query with
    | none => { u with query := some (Percent.formPairs pairs) }
    | some [] => { u with query := some (Percent.formPairs pairs) }
    | some query => { u with query := some (query ++ '&' :: Percent.formPairs pairs) }

/-- The address without the login, which is sent in a header field.  A login that is no text stays. -/
def withoutLogin (u : Url) : Url :=
  match u.authority with
  | none => u
  | some a =>
    let isText (part : List Char) := (Utf8.decode (Percent.decode part)).isSome
    if isText a.username && (!a.username.isEmpty || (!a.password.isEmpty && isText a.password)) then
      { u with authority := some { a with username := [], password := [] } }
    else u

end Url

end Depot
