import Depot.Disk.Basic
import Depot.Upload.Mime

/-!
# Files to upload

A file to upload has a name, a type and a source of bytes.  It is made from bytes in memory, or from a path
on disk, whose last part becomes the name; its size is then the one that the file on disk has at that moment
(`ByteSource.open?`).  `UploadTarget` says what becomes of the bytes: a new file under a parent, or new contents
of an existing file.
-/

namespace Depot

/-- The file that a path leads to, with the size that it has now. -/
def ByteSource.open? (d : Disk) (path : String) : Except IoError ByteSource :=
  match d.find path with
  | .error e => .error e
  | .ok .directory => .error ⟨.invalidInput, s!"{path} is not a regular file"⟩
  | .ok (.file data) => .ok (.disk path data.length)

/-- A local file that is uploaded. -/
structure UploadFile where
  name : String
  mimeType : String
  source : ByteSource
  deriving DecidableEq

namespace UploadFile

instance : Inhabited UploadFile := ⟨"", "", .memory []⟩

def size (f : UploadFile) : Nat := f.source.size

/-- A file in memory; its type is guessed from its name. -/
def ofBytes (name : String) (data : Bytes) : UploadFile :=
  { name, mimeType := Mime.ofPath name, source := .memory data }

/-- A file on disk, named after the end of the path. -/
def open? (disk : Disk) (path : String) : Except IoError UploadFile :=
  match Path.fileName? path with
  | none => .error ⟨.invalidInput, s!"{path} has no file name"⟩
  | some name => do
    let source ← ByteSource.open? disk path
    return { name, mimeType := Mime.ofPath path, source }

end UploadFile

/-- What becomes of the bytes. -/
inductive UploadTarget where
  /-- A new file under a folder or an item. -/
  | parent (parentType parentId : String)
  /-- New contents of an existing file. -/
  | contents (fileId : String)
  deriving DecidableEq

namespace UploadTarget

def folder (id : String) : UploadTarget := parent "folder" id
def item (id : String) : UploadTarget := parent "item" id

end UploadTarget

end Depot
