import Depot.Text.Quoted
import Depot.Text.Utf8

/-!
# Where the bytes of an upload come from

A `ByteSource` is a file whose size is fixed when the source is made: bytes held in memory, or a file on
disk, whose contents may change between two reads of a resumable upload.

* `ByteSource.readRange` reads the bytes from `start` up to `stop`.  Both kinds refuse a range that is no
  part of the recorded size.  In memory the rest is a slice; a file on disk is opened anew for every range, and
  a buffer is filled from `start` on.
* The system gives what is read of an open file in portions of its own choice (`Portions`), so one read does not
  fill a buffer.  `OpenFile.readExact` goes on until it is full; a file that ends before that is an error, not a
  short answer.
* The current contents of the disk are an argument, so a read is a function.
-/

namespace Depot

/-- The kinds of failure of a local read. -/
inductive IoKind where
  | notFound
  | notADirectory
  | invalidInput
  | invalidFilename
  | unexpectedEof
  | other
  deriving DecidableEq

/-- A failed local read. -/
structure IoError where
  kind : IoKind
  message : String
  deriving DecidableEq

namespace IoError

instance : Inhabited IoError := ⟨.other, ""⟩

/-- There is no such file. -/
def missing : IoError := ⟨.notFound, "No such file or directory (os error 2)"⟩

/-- Something on the way to the file is no directory. -/
def notADirectory : IoError := ⟨.notADirectory, "Not a directory (os error 20)"⟩

/-- A name that no file can have. -/
def longName : IoError := ⟨.invalidFilename, "File name too long (os error 36)"⟩

/-- The file ends before the range does. -/
def early : IoError := ⟨.unexpectedEof, "early eof"⟩

/-- The range is no part of the source. -/
def outside (start stop size : Nat) : IoError :=
  ⟨.invalidInput, s!"range {start}..{stop} outside 0..{size}"⟩

end IoError

/-! ### Open files -/

/-- How many bytes a single read gives, at a place of a file and of so many that are wanted: as the system
likes, but never none. -/
structure Portions where
  given : (position wanted : Nat) → Nat
  given_pos : ∀ position wanted, 0 < wanted → 0 < given position wanted

/-- All that is wanted, up to two mebibytes at a time. -/
def Portions.buffered : Portions where
  given _ wanted := min wanted 2097152
  given_pos _ _ wanted := by omega

/-- A buffer: what has been read into it, and behind that the room that is left. -/
structure ReadBuffer where
  filled : Bytes
  room : Bytes

namespace ReadBuffer

/-- Nothing has been read yet; the room is all zeros. -/
def zeros (length : Nat) : ReadBuffer := ⟨[], List.replicate length 0⟩

/-- Write over the beginning of the room. -/
def put (b : ReadBuffer) (got : Bytes) : ReadBuffer := ⟨b.filled ++ got, b.room.drop got.length⟩

/-- All of the buffer, the room included. -/
def bytes (b : ReadBuffer) : Bytes := b.filled ++ b.room

end ReadBuffer

/-- A file that has been opened: what it holds, and the place where the next read begins. -/
structure OpenFile where
  data : Bytes
  position : Nat := 0

namespace OpenFile

/-- Go to a place, which may lie behind the end of the file. -/
def seek (f : OpenFile) (position : Nat) : OpenFile := { f with position }

/-- What is still to be read. -/
def ahead (f : OpenFile) : Bytes := f.data.drop f.position

/-- A single read: some of the bytes ahead, none only at the end of the file. -/
def read (p : Portions) (f : OpenFile) (wanted : Nat) : Bytes :=
  f.ahead.take (min wanted (p.given f.position wanted))

/-- Read until the buffer is full. -/
def readExact (p : Portions) (f : OpenFile) (b : ReadBuffer) : Except IoError Bytes :=
  if b.room = [] then .ok b.bytes
  else
    let got := f.read p b.room.length
    if got = [] then .error .early else readExact p (f.seek (f.position + got.length)) (b.put got)
termination_by b.room.length
decreasing_by
  rename_i unfilled given
  have room : 0 < b.room.length := List.length_pos_iff.mpr unfilled
  have gain : 0 < (f.read p b.room.length).length := List.length_pos_iff.mpr given
  rw [ReadBuffer.put, List.length_drop]
  omega

end OpenFile

/-- Bytes of known size that can be read from anywhere. -/
inductive ByteSource where
  /-- Bytes held in memory. -/
  | memory (data : Bytes)
  /-- A file on disk, with the size that it had when it was opened. -/
  | disk (path : String) (size : Nat)
  deriving DecidableEq

namespace ByteSource

def size : ByteSource → Nat
  | memory data => data.length
  | disk _ size => size

/-- What kind of source it is. -/
def describe : ByteSource → String
  | memory data => "MemorySource \x7b len: " ++ toString data.length ++ " \x7d"
  | disk path size =>
    "FileSource \x7b path: " ++ quoted path ++ ", size: " ++ toString size ++ " \x7d"

/-- The bytes from `start` up to `stop`. -/
def slice (data : Bytes) (start stop : Nat) : Bytes := (data.drop start).take (stop - start)

/-- The range is part of the source. -/
def covers (s : ByteSource) (start stop : Nat) : Bool := start ≤ stop ∧ stop ≤ s.size

/-- Read a range, a file on disk in such portions; `contents` gives what a file on disk holds now, if there is
such a file. -/
def readRangeBy (s : ByteSource) (p : Portions) (contents : String → Option Bytes) (start stop : Nat) :
    Except IoError Bytes :=
  if s.covers start stop then
    match s with
    | memory data => .ok (slice data start stop)
    | disk path _ =>
      match contents path with
      | none => .error .missing
      | some data => ((OpenFile.mk data 0).seek start).readExact p (.zeros (stop - start))
  else .error (.outside start stop s.size)

/-- Read a range, a file on disk in the usual portions. -/
def readRange (s : ByteSource) (contents : String → Option Bytes) (start stop : Nat) : Except IoError Bytes :=
  s.readRangeBy .buffered contents start stop

end ByteSource

end Depot
