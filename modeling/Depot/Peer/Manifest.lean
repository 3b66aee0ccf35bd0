import Depot.Text.Numeral
import Depot.Xml.Event

/-!
# How a storage provider reads a manifest

The provider reads a manifest as the XML document that it is: the events of the text, one after the other
(`Reading.feed`).  Every element has to be where it belongs and nothing else may be there; the references in
a tag stand for their characters, and an element without character data holds the empty text.
-/

namespace Depot.Manifest

/-- The element starts, without attributes. -/
def opening (name : String) : Xml.Event := .start name.toList []

/-- The element ends. -/
def closing (name : String) : Xml.Event := .finish name.toList

/-- How far the manifest has been read; the parts that are complete are kept last first. -/
inductive Reading where
  /-- Before the root element. -/
  | before
  /-- Between parts. -/
  | parts (read : List (Nat × String))
  /-- Inside a part, in front of its number. -/
  | part (read : List (Nat × String))
  | number (read : List (Nat × String)) (digits : List Char)
  /-- Behind the number of a part. -/
  | numbered (read : List (Nat × String)) (number : Nat)
  | tag (read : List (Nat × String)) (number : Nat) (text : List Char)
  /-- Behind the tag of a part. -/
  | tagged (read : List (Nat × String)) (number : Nat) (tag : String)
  /-- Behind the root element. -/
  | finished (read : List (Nat × String))

namespace Reading

/-- The reading after one more event. -/
def feed : Reading → Xml.Event → Option Reading
  | before, e => if e = opening "CompleteMultipartUpload" then some (parts []) else none
  | parts read, e =>
    if e = opening "Part" then some (part read)
    else if e = closing "CompleteMultipartUpload" then some (finished read)
    else none
  | part read, e => if e = opening "PartNumber" then some (number read []) else none
  | number read digits, .text more => some (number read (digits ++ more))
  | number read digits, e =>
    if e = closing "PartNumber" then (numeral? 10 digits).map (numbered read) else none
  | numbered read n, e => if e = opening "ETag" then some (tag read n []) else none
  | tag read n text, .text raw =>
    (Xml.resolve none raw).map fun more => tag read n (text ++ more)
  | tag read n text, e => if e = closing "ETag" then some (tagged read n (String.ofList text)) else none
  | tagged read n given, e => if e = closing "Part" then some (parts ((n, given) :: read)) else none
  | finished _, _ => none

/-- The parts that the rest of the events completes. -/
def read : Reading → List Xml.Event → Option (List (Nat × String))
  | finished read, [] => some read.reverse
  | _, [] => none
  | r, e :: rest => (r.feed e).bind (Reading.read · rest)

end Reading

/-- The parts that a manifest lists. -/
def read? (text : String) : Option (List (Nat × String)) :=
  Reading.before.read (Xml.events text.toList)

end Depot.Manifest
