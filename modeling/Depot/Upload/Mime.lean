import Depot.Disk.Path

/-!
# Types of files

The type of a file is guessed from the extension of its name.  The case of the letters does not matter, in
the sense of Unicode's case folding, so a long s is an s and a sharp s is two of them.
-/

namespace Depot.Mime

/-- A file of which nothing more is known. -/
def octetStream : String := "application/octet-stream"

/-- The types of files by extension. -/
def table : List (String × String) :=
  [("txt", "text/plain"), ("png", "image/png"), ("jpg", "image/jpeg"), ("jpeg", "image/jpeg"),
    ("gif", "image/gif"), ("html", "text/html"), ("htm", "text/html"), ("css", "text/css"),
    ("json", "application/json"), ("xml", "text/xml"), ("csv", "text/csv"),
    ("pdf", "application/pdf"), ("zip", "application/zip"), ("tar", "application/x-tar"),
    ("gz", "application/gzip"), ("mp4", "video/mp4"), ("mp3", "audio/mpeg"), ("wav", "audio/wav"),
    ("svg", "image/svg+xml"), ("md", "text/markdown")]

/-- A letter without its case, as far as letters of the table are concerned. -/
def foldChar (c : Char) : List Char :=
  if c = '\u017F' then ['s']
  else if c = '\u00DF' ∨ c = '\u1E9E' then ['s', 's']
  else if c = '\uFB06' ∨ c = '\uFB05' then ['s', 't']
  else [c.toLower]

/-- The type of a file with this extension. -/
def ofExtension (extension : String) : String :=
  (table.lookup (String.ofList (extension.toList.flatMap foldChar))).getD octetStream

/-- The type of the file that a path names. -/
def ofPath (path : String) : String :=
  match Path.extension? path with
  | some extension => ofExtension extension
  | none => octetStream

end Depot.Mime
