import Depot.Url.Basic

/-!
# Reading addresses

A text is read as an address of its own or as a reference relative to a base (`Url.read`), following the
rules that browsers agreed on.

* Controls and spaces around the text do not count, tabs and line ends nowhere.
* A text with a scheme is an address of its own, unless its scheme is the one of the base and no authority
  follows.
* A relative reference replaces the part of the base from where it starts: a fragment, a query, the segments
  behind the last slash, the whole path, or everything behind the scheme.
* In a path, a segment of one dot stands for nothing and one of two dots takes the segment before it away.
  A reference that climbs above the root stays there.

So a relative reference can lead out of the directory of its base, and a reference with two slashes or with
a scheme can lead anywhere.
-/

namespace Depot

namespace Url

/-! ### Paths -/

/-- The segment stands for the place itself. -/
def isDot (segment : List Char) : Bool :=
  [".".toList, "%2e".toList].contains (segment.map Char.toLower)

/-- The segment leads one step up. -/
def isDotDot (segment : List Char) : Bool :=
  ["..".toList, ".%2e".toList, "%2e.".toList, "%2e%2e".toList].contains (segment.map Char.toLower)

/-- The segment names a drive. -/
def isDrive : List Char → Bool
  | [letter, mark] => letter.isAlpha && (mark = ':' || mark = '|')
  | _ => false

/-- The form in which a segment is kept. -/
def keepSegment (kind : SchemeKind) (segment : List Char) : List Char :=
  if kind = .file && isDrive segment then segment.take 1 ++ [':']
  else Percent.encode Percent.pathSet segment

/-- The path, last segment first, after one more segment.  There is no way up from a drive. -/
def walk (kind : SchemeKind) (walked : List (List Char)) (segment : List Char) : List (List Char) :=
  if isDotDot segment then
    match walked with
    | last :: before => if isDrive last then walked else before
    | [] => []
  else if isDot segment then walked
  else keepSegment kind segment :: walked

/-- The last segment of a path is the name of something, so dots at the end leave an empty one. -/
def arrive (kind : SchemeKind) (walked : List (List Char)) (segment : List Char) : List (List Char) :=
  if isDotDot segment || isDot segment then [] :: walk kind walked segment
  else walk kind walked segment

/-- The path that leads from some segments (the last one first) along others. -/
def walkAll (kind : SchemeKind) : List (List Char) → List (List Char) → List (List Char)
  | walked, [] => walked.reverse
  | walked, [segment] => (arrive kind walked segment).reverse
  | walked, segment :: rest => walkAll kind (walk kind walked segment) rest

/-- In the path of a file, empty segments at the beginning do not count. -/
def settle (kind : SchemeKind) (path : List (List Char)) : List (List Char) :=
  if kind = .file then
    match path.dropWhile List.isEmpty with
    | [] => [[]]
    | rest => rest
  else path

/-- The path that leads from some segments along a text. -/
def readPath (kind : SchemeKind) (start : List (List Char)) (text : List Char) : UrlPath :=
  .segments (settle kind (walkAll kind start.reverse (pieces kind.separates text)))

/-- The directory of a path: all but its last segment, unless that names the drive of a file. -/
def directory (kind : SchemeKind) (path : List (List Char)) : List (List Char) :=
  if kind = .file && isDrive (path.getLastD []) then path else path.dropLast

/-! ### Queries and fragments -/

/-- The path, the query and the fragment of what is left of an address. -/
def cutTail (text : List Char) : List Char × Option (List Char) × Option (List Char) :=
  let (front, fragment) := cut '#' text
  let (path, query) := cut '?' front
  (path, query, fragment)

def keepQuery (kind : SchemeKind) (query : List Char) : List Char :=
  Percent.encode (if kind = .other then Percent.querySet else Percent.wellKnownQuerySet) query

def keepFragment (fragment : List Char) : List Char := Percent.encode Percent.fragmentSet fragment

/-- The address whose path leads from some segments along the text, which goes on with a query and a
fragment. -/
def finish (scheme : List Char) (authority : Option Authority) (start : List (List Char))
    (text : List Char) : Url :=
  let kind := schemeKind scheme
  let (path, query, fragment) := cutTail text
  { scheme, authority
    path := readPath kind start path
    query := query.map (keepQuery kind)
    fragment := fragment.map keepFragment }

/-! ### Authorities -/

/-- The authority ends before this character. -/
def endsAuthority (kind : SchemeKind) (c : Char) : Bool :=
  kind.separates c || c = '?' || c = '#'

/-- The host at the beginning of a text: it ends before a colon that is not in brackets. -/
def hostPart (bracketed : Bool) : List Char → List Char
  | [] => []
  | c :: rest =>
    if c = ':' && !bracketed then []
    else c :: hostPart (if c = '[' then true else if c = ']' then false else bracketed) rest

/-- The port that some digits write, unless it is the usual one. -/
def readPort (scheme : List Char) (digits : List Char) : Except UrlError (Option Nat) :=
  match numeral? 10 digits with
  | none => if digits.isEmpty then .ok none else .error .port
  | some port =>
    if port < 65536 then .ok (if usualPort? scheme = some port then none else some port)
    else .error .port

/-- The authority that a text writes, and what stands behind a backslash in the place of its port. -/
def readLogin (scheme : List Char) (text : List Char) : Except UrlError (Authority × List Char) := do
  let kind := schemeKind scheme
  let (login, place) := cutLast '@' text
  let (username, password) := cut ':' (login.getD [])
  let hostText := hostPart false place
  let portText := place.drop hostText.length
  if kind = .web ∧ hostText = [] then throw .emptyHost
  let host ← if kind = .web then Host.read hostText else Host.readPlain hostText
  if hostText = [] ∧ portText ≠ [] then throw .emptyHost
  let (digits, behind) := (portText.drop 1).span (· ≠ '\\')
  let port ← readPort scheme digits
  let authority : Authority :=
    { username := Percent.encode Percent.loginSet username
      password := Percent.encode Percent.loginSet (password.getD [])
      host, port }
  if hostText = [] ∧ authority.hasLogin then throw .emptyHost
  return (authority, behind)

/-- The authority at the beginning of a text, and what follows it. -/
def readAuthority (scheme : List Char) (text : List Char) : Except UrlError (Authority × List Char) :=
  let inside := text.takeWhile (!endsAuthority (schemeKind scheme) ·)
  let rest := text.drop inside.length
  if cutLast '@' inside = (some [], []) ∧ rest ≠ [] then .error .emptyHost
  else (readLogin scheme inside).map fun (authority, behind) => (authority, behind ++ rest)

/-- The address with this authority, and with what follows it. -/
def behindAuthority (scheme : List Char) (authority : Authority) (rest : List Char) : Url :=
  let kind := schemeKind scheme
  match rest with
  | c :: rest' =>
    if kind.separates c then finish scheme (some authority) [] rest'
    else if kind = .other ∧ (c = '?' ∨ c = '#') then
      { finish scheme (some authority) [] rest with path := .segments [] }
    else finish scheme (some authority) [] rest
  | [] =>
    if kind = .other then ⟨scheme, some authority, .segments [], none, none⟩
    else finish scheme (some authority) [] []

/-- The address whose authority is at the beginning of the text. -/
def readHierarchy (scheme : List Char) (text : List Char) : Except UrlError Url :=
  (readAuthority scheme text).map fun (authority, rest) => behindAuthority scheme authority rest

/-! ### Files -/

def fileScheme : List Char := "file".toList

/-- No host: the file is here. -/
def localHost : Authority := .ofHost (.name [])

/-- A slash or a backslash. -/
def isSlash (c : Char) : Bool := c = '/' || c = '\\'

/-- The text begins with a segment that names a drive. -/
def startsWithDrive (text : List Char) : Bool :=
  isDrive (text.takeWhile fun c => !(isSlash c || c = '?' || c = '#'))

/-- The host of a file, and what follows it.  A drive is no host, and the local host is none. -/
def readFileHost (text : List Char) : Except UrlError (Authority × List Char) :=
  let hostText := text.takeWhile (!endsAuthority .file ·)
  if isDrive hostText then .ok (localHost, text)
  else
    let rest := text.drop hostText.length
    if hostText = [] then .ok (localHost, rest)
    else (Host.read hostText).map fun host =>
      (if host = .name "localhost".toList then localHost else .ofHost host, rest)

/-- The text without a slash in front. -/
def withoutSlash : List Char → List Char
  | [] => []
  | c :: rest => if isSlash c then rest else c :: rest

/-- The file with this host, and with what follows it.  If its path names a drive, it is here. -/
def behindFileHost (authority : Authority) (rest : List Char) : Url :=
  let text := withoutSlash rest
  let drives := (pieces isSlash (cutTail text).1).any isDrive
  finish fileScheme (some (if drives then localHost else authority)) [] text

/-- A file at a host. -/
def readFileAt (text : List Char) : Except UrlError Url :=
  (readFileHost text).map fun (authority, rest) => behindFileHost authority rest

/-- The first segment of a path, if it names a drive. -/
def driveOf (path : List (List Char)) : List (List Char) := (path.take 1).filter isDrive

/-- The file to which a text leads from the root of the base. -/
def fileFromRoot (base : Option Url) (text : List Char) : Url :=
  match base with
  | none => finish fileScheme (some localHost) [] text
  | some base =>
    if startsWithDrive text then finish fileScheme (some localHost) [] text
    else if (driveOf base.segments).isEmpty then finish fileScheme base.authority [] text
    else finish fileScheme (some localHost) (driveOf base.segments) text

/-- The file to which a text leads from the directory of the base. -/
def fileFromDirectory (base : Option Url) (text : List Char) : Url :=
  match base with
  | none => finish fileScheme (some localHost) [] text
  | some base =>
    if startsWithDrive text then finish fileScheme (some localHost) [] text
    else finish fileScheme base.authority (directory .file base.segments) text

/-- The file that a text gives behind the scheme. -/
def readFile (base : Option Url) (text : List Char) : Except UrlError Url :=
  match text with
  | c :: d :: rest =>
    if isSlash c && isSlash d then readFileAt rest
    else if isSlash c then .ok (fileFromRoot base (d :: rest))
    else .ok (fileFromDirectory base text)
  | [c] => .ok (if isSlash c then fileFromRoot base [] else fileFromDirectory base text)
  | [] => .ok (fileFromDirectory base [])

/-! ### References and addresses -/

/-- The address to which a reference without a scheme leads. -/
def resolve (base : Url) (text : List Char) : Except UrlError Url :=
  match text with
  | [] => .ok { base with fragment := none }
  | '#' :: fragment => .ok { base with fragment := some (keepFragment fragment) }
  | '?' :: _ =>
    let (_, query, fragment) := cutTail text
    .ok { base with
      query := query.map (keepQuery base.kind), fragment := fragment.map keepFragment }
  | c :: rest =>
    if base.kind = .file then readFile (some base) text
    else if isSlash c then
      match rest with
      | d :: rest' =>
        if c = '/' ∧ d = '/' then readHierarchy base.scheme rest'
        else if isSlash d then readHierarchy base.scheme (text.dropWhile isSlash)
        else .ok (finish base.scheme base.authority [] rest)
      | [] => .ok (finish base.scheme base.authority [] rest)
    else .ok (finish base.scheme base.authority base.segments.dropLast text)

/-- The address whose path is a plain text. -/
def readFlat (scheme text : List Char) : Url :=
  let (path, query, fragment) := cutTail text
  { scheme, authority := none
    path := .flat (Percent.encode Percent.leastSet path)
    query := query.map (keepQuery (schemeKind scheme))
    fragment := fragment.map keepFragment }

/-- The address that a text gives behind its scheme. -/
def readBehind (base : Option Url) (scheme text : List Char) : Except UrlError Url :=
  let related := base.filter fun b => b.scheme = scheme
  match schemeKind scheme, related with
  | .file, some base => resolve base text
  | .file, none => readFile none text
  | .web, some base =>
    if (text.takeWhile isSlash).length < 2 then resolve base text
    else readHierarchy scheme (text.dropWhile isSlash)
  | .web, none => readHierarchy scheme (text.dropWhile isSlash)
  | .other, _ =>
    match text with
    | '/' :: '/' :: rest => readHierarchy scheme rest
    | '/' :: rest => .ok (finish scheme none [] rest)
    | _ => .ok (readFlat scheme text)

/-- The characters of a scheme. -/
def isSchemeChar (c : Char) : Bool := c.isAlphanum || c = '+' || c = '-' || c = '.'

/-- The scheme at the beginning of a text, and what follows its colon. -/
def cutScheme? (text : List Char) : Option (List Char × List Char) :=
  let scheme := text.takeWhile isSchemeChar
  match scheme, text.drop scheme.length with
  | c :: _, ':' :: rest => if c.isAlpha then some (scheme.map Char.toLower, rest) else none
  | _, _ => none

/-- Controls and the space. -/
def isMargin (c : Char) : Bool := c.toNat ≤ 0x20

/-- The text without what does not count. -/
def clean (text : List Char) : List Char :=
  let trimmed := ((text.dropWhile isMargin).reverse.dropWhile isMargin).reverse
  trimmed.filter fun c => !(c = '\t' || c = '\n' || c = '\r')

/-- The address that a text gives, relative to a base if there is one. -/
def readFrom (base : Option Url) (text : List Char) : Except UrlError Url :=
  match cutScheme? text, base with
  | some (scheme, rest), _ => readBehind base scheme rest
  | none, none => .error .noBase
  | none, some base =>
    if base.isFlat && text.head? ≠ some '#' then .error .flatBase else resolve base text

/-- The address that a text is. -/
def read (text : String) : Except UrlError Url := readFrom none (clean text.toList)

/-- The address to which a text leads from here. -/
def join (base : Url) (text : String) : Except UrlError Url :=
  readFrom (some base) (clean text.toList)

end Url

end Depot
