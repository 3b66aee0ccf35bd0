/-!
# The manifest of a multipart upload

When all parts are stored, the provider is told which parts make up the object: each with its number and
with the tag that the provider gave it.  The document has no declaration and no white space; only the
ampersand and the angle brackets are escaped in a tag, and an empty tag is an empty element.

A tag is any text, so it is escaped in such a way that no tag can look like markup.
-/

namespace Depot.Manifest

/-- The written form of one character of a tag. -/
def escapeChar (c : Char) : List Char :=
  if c = '&' then "&amp;".toList
  else if c = '<' then "&lt;".toList
  else if c = '>' then "&gt;".toList
  else [c]

/-- The element with the tag of a part. -/
def writeTag (tag : String) : List Char :=
  if tag = "" then "<ETag/>".toList
  else "<ETag>".toList ++ tag.toList.flatMap escapeChar ++ "</ETag>".toList

/-- The element of one part. -/
def writePart (number : Nat) (tag : String) : List Char :=
  "<Part><PartNumber>".toList ++ (toString number).toList ++ "</PartNumber>".toList ++ writeTag tag
    ++ "</Part>".toList

/-- The manifest of these parts, which are listed in their order. -/
def write (parts : List (Nat × String)) : List Char :=
  if parts.isEmpty then "<CompleteMultipartUpload/>".toList
  else "<CompleteMultipartUpload>".toList ++ parts.flatMap (fun p => writePart p.1 p.2)
    ++ "</CompleteMultipartUpload>".toList

/-- The text of a manifest. -/
def render (parts : List (Nat × String)) : String := String.ofList (write parts)

end Depot.Manifest
