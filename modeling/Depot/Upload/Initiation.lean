import Depot.Xml.Event

/-!
# The answer of a storage provider to an initiation

A provider answers the initiation of a multipart upload with an XML document.  Of it only the identifier of
the upload is read: the character data of the one child `UploadId` of the root element, in any namespace.
What the root is called does not matter, other children are skipped whole, and text between the children is
ignored once its references are known to be good.  Nothing behind the end of the root is looked at.

`uploadId?` reads the events one after the other (`Reading.feed`); a document without exactly one such
child, or with a mark that does not fit, has no identifier.
-/

namespace Depot.Initiation

/-- How far the document has been read. -/
inductive Reading where
  /-- Before the root element. -/
  | before
  /-- Among the children of the root. -/
  | root (name : List Char) (found : Option (List Char))
  /-- Inside the child that holds the identifier. -/
  | identifier (root name : List Char) (read : List Char)
  /-- Inside another child; the names of its open elements, innermost first. -/
  | skipped (root : List Char) (found : Option (List Char)) (opened : List (List Char))
  /-- Behind the root element. -/
  | finished (found : Option (List Char))

/-- The reading after one more event. -/
def Reading.feed : Reading → Xml.Event → Option Reading
  | before, .text raw => if raw.all Xml.isSpace then some before else none
  | before, .start name attributes =>
    if Xml.attributesAreWellFormed .between [] attributes then some (root name none) else none
  | root name found, .text raw => (Xml.resolve none raw).map fun _ => root name found
  | root name found, .verbatim _ => some (root name found)
  | root name found, .start child _ =>
    if Xml.localName child = "UploadId".toList then
      if found.isSome then none else some (identifier name child [])
    else some (skipped name found [child])
  | root name found, .finish closed => if closed = name then some (finished found) else none
  | identifier r name read, .text raw =>
    (Xml.resolve none raw).map fun more => identifier r name (read ++ more)
  | identifier r name read, .verbatim more => some (identifier r name (read ++ more))
  | identifier r name read, .finish closed =>
    if closed = name then some (root r (some read)) else none
  | skipped r found opened, .start child _ => some (skipped r found (child :: opened))
  | skipped r found opened, .text _ => some (skipped r found opened)
  | skipped r found opened, .verbatim _ => some (skipped r found opened)
  | skipped r found (name :: outer), .finish closed =>
    if closed = name then some (if outer.isEmpty then root r found else skipped r found outer)
    else none
  | _, _ => none

/-- The identifier that the rest of the events gives. -/
def Reading.read : Reading → List Xml.Event → Option (List Char)
  | finished found, _ => found
  | _, [] => none
  | r, e :: rest => (r.feed e).bind (Reading.read · rest)

/-- The identifier of the upload that the provider has initiated. -/
def uploadId? (document : String) : Option String :=
  (Reading.before.read (Xml.events document.toList)).map String.ofList

end Depot.Initiation
