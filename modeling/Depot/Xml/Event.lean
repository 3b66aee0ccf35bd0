import Depot.Text.Numeral

/-!
# The marks of an XML text

An XML text is read as a list of events: an element starts or ends, or there is character data between.
Comments, processing instructions and the document type say nothing to a reader of data and leave no
event.  An element that closes itself starts and ends.

The text is swept once, character by character (`Sweep.feed`).  Where it cannot be read on, the list ends
with `Event.malformed`; a reader that has what it wants before that never sees it.

Only the marks are found here.  That every element ends under its own name, that attributes are well
formed and that references are known is up to the reader of the events.
-/

namespace Depot.Xml

/-- One mark. -/
inductive Event where
  /-- An element starts; its name and, behind it, its attributes as written. -/
  | start (name attributes : List Char)
  /-- The element with this name ends. -/
  | finish (name : List Char)
  /-- Character data with references. -/
  | text (raw : List Char)
  /-- Character data that stands for itself. -/
  | verbatim (text : List Char)
  /-- The text cannot be read on. -/
  | malformed
  deriving DecidableEq

/-- White space between marks. -/
def isSpace (c : Char) : Bool := c = ' ' ∨ c = '\t' ∨ c = '\n' ∨ c = '\r'

/-- Where the sweep stands.  What has been read of a mark is kept last character first. -/
inductive Sweep where
  | text (read : List Char)
  /-- Behind an opening angle bracket. -/
  | markup
  | startTag (read : List Char) (quote : Option Char)
  | endTag (read : List Char)
  | instruction (read : List Char)
  /-- Behind an exclamation mark. -/
  | declaration
  | comment (read : List Char)
  | verbatim (read : List Char)
  | documentType (read : List Char) (nested : Nat)

namespace Sweep

/-- The events of a start tag, from all that stands between its angle brackets. -/
def tagEvents (tag : List Char) : List Event :=
  let closed := tag.getLast? == some '/'
  let tag := if closed then tag.dropLast else tag
  let name := tag.takeWhile (!isSpace ·)
  let opening := Event.start name (tag.drop name.length)
  if closed then [opening, .finish name] else [opening]

/-- A text without white space at its end. -/
def trimEnd (s : List Char) : List Char := (s.reverse.dropWhile isSpace).reverse

/-- A document type is introduced by its keyword, in any case, and names a root. -/
def isDocumentType (s : List Char) : Bool :=
  (s.take 7).map Char.toUpper = "DOCTYPE".toList && (s.drop 7).any (!isSpace ·)

/-- The events that one more character completes, and where the sweep stands then. -/
def feed : Sweep → Char → Option (List Event × Sweep)
  | text read, c =>
    if c = '<' then some (if read.isEmpty then [] else [.text read.reverse], markup)
    else some ([], text (c :: read))
  | markup, c =>
    match c with
    | '!' => some ([], declaration)
    | '/' => some ([], endTag [])
    | '?' => some ([], instruction [])
    | '>' => some (tagEvents [], text [])
    | '\'' => some ([], startTag [c] (some c))
    | '"' => some ([], startTag [c] (some c))
    | _ => some ([], startTag [c] none)
  | startTag read (some q), c => some ([], startTag (c :: read) (if c = q then none else some q))
  | startTag read none, c =>
    if c = '>' then some (tagEvents read.reverse, text [])
    else if c = '\'' ∨ c = '"' then some ([], startTag (c :: read) (some c))
    else some ([], startTag (c :: read) none)
  | endTag read, c =>
    if c = '>' then some ([.finish (trimEnd read.reverse)], text [])
    else some ([], endTag (c :: read))
  | instruction read, c =>
    if c = '>' ∧ read.head? = some '?' then some ([], text [])
    else some ([], instruction (c :: read))
  | declaration, c =>
    match c with
    | '-' => some ([], comment [c])
    | '[' => some ([], verbatim [c])
    | 'D' => some ([], documentType [c] 0)
    | 'd' => some ([], documentType [c] 0)
    | _ => none
  | comment read, c =>
    if c = '>' ∧ 4 ≤ read.length ∧ read.take 2 = ['-', '-'] then
      if read.reverse.take 2 = ['-', '-'] then some ([], text []) else none
    else some ([], comment (c :: read))
  | verbatim read, c =>
    if c = '>' ∧ read.take 2 = [']', ']'] then
      if read.reverse.take 7 = "[CDATA[".toList ∧ 9 ≤ read.length then
        some ([.verbatim ((read.drop 2).reverse.drop 7)], text [])
      else none
    else some ([], verbatim (c :: read))
  | documentType read nested, c =>
    if c = '<' then some ([], documentType (c :: read) (nested + 1))
    else if c = '>' then
      if nested = 0 then (if isDocumentType read.reverse then some ([], text []) else none)
      else some ([], documentType (c :: read) (nested - 1))
    else some ([], documentType (c :: read) nested)

/-- The events from here to the end of the text. -/
def events : Sweep → List Char → List Event
  | text [], [] => []
  | text read, [] => [.text read.reverse]
  | _, [] => [.malformed]
  | s, c :: rest =>
    match s.feed c with
    | some (done, next) => done ++ events next rest
    | none => [.malformed]

end Sweep

/-- The events of an XML text, which may begin with a byte order mark. -/
def events (text : List Char) : List Event :=
  Sweep.events (.text []) (if text.head? = some '\uFEFF' then text.drop 1 else text)

/-! ### Names, attributes, references -/

/-- A name without the namespace in front of it. -/
def localName (name : List Char) : List Char :=
  if name.contains ':' then (name.dropWhile (· != ':')).drop 1 else name

/-- Where the reading of attributes stands. -/
inductive AttributeSweep where
  /-- Between attributes. -/
  | between
  | name (read : List Char)
  /-- Behind a name and white space. -/
  | equals (name : List Char)
  /-- Behind an equals sign. -/
  | value (name : List Char)
  | quoted (quote : Char)

/-- The attributes are well formed: each has a quoted value, and no name is repeated. -/
def attributesAreWellFormed : AttributeSweep → List (List Char) → List Char → Bool
  | .between, _, [] => true
  | _, _, [] => false
  | .between, seen, c :: rest =>
    attributesAreWellFormed (if isSpace c then .between else .name [c]) seen rest
  | .name read, seen, c :: rest =>
    if c = '=' then
      !seen.contains read.reverse &&
        attributesAreWellFormed (.value read.reverse) (read.reverse :: seen) rest
    else if isSpace c then attributesAreWellFormed (.equals read.reverse) seen rest
    else attributesAreWellFormed (.name (c :: read)) seen rest
  | .equals name, seen, c :: rest =>
    if isSpace c then attributesAreWellFormed (.equals name) seen rest
    else if c = '=' then
      !seen.contains name && attributesAreWellFormed (.value name) (name :: seen) rest
    else false
  | .value name, seen, c :: rest =>
    if isSpace c then attributesAreWellFormed (.value name) seen rest
    else if c = '"' ∨ c = '\'' then attributesAreWellFormed (.quoted c) seen rest
    else false
  | .quoted q, seen, c :: rest =>
    attributesAreWellFormed (if c = q then .between else .quoted q) seen rest

/-- A character by its number; there is none with number zero. -/
def character (n : Nat) : Option Char :=
  if n ≠ 0 ∧ n.isValidChar then some (Char.ofNat n) else none

/-- The character that a reference stands for, from what is between its ampersand and its semicolon. -/
def reference (name : List Char) : Option Char :=
  match name with
  | '#' :: 'x' :: digits => (numeral? 16 digits).bind character
  | '#' :: digits => (numeral? 10 digits).bind character
  | _ =>
    if name = "lt".toList then some '<'
    else if name = "gt".toList then some '>'
    else if name = "amp".toList then some '&'
    else if name = "apos".toList then some '\''
    else if name = "quot".toList then some '"'
    else none

/-- Character data with its references resolved; `none` if one is unknown or does not end.  The second
argument is what has been read of a reference, last character first. -/
def resolve : Option (List Char) → List Char → Option (List Char)
  | none, [] => some []
  | some _, [] => none
  | none, '&' :: rest => resolve (some []) rest
  | none, c :: rest => (resolve none rest).map (c :: ·)
  | some name, c :: rest =>
    if c = ';' then (reference name.reverse).bind fun r => (resolve none rest).map (r :: ·)
    else if c = '&' then none
    else resolve (some (c :: name)) rest

end Depot.Xml
