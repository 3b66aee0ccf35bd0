/-!
# Where the pages began

A filter makes pages cover raw ranges of different lengths, so the way back needs to know where each page
began.  An `OffsetStack` keeps the raw offset of every page that has been shown on the way to the present
one, the present one on top.
-/

namespace Depot

/-- Raw offsets of pages, the last page first. -/
structure OffsetStack where
  offsets : List Nat
  deriving DecidableEq

namespace OffsetStack

/-- No page has been shown. -/
def empty : OffsetStack := ⟨[]⟩

instance : Inhabited OffsetStack := ⟨empty⟩

def push (s : OffsetStack) (offset : Nat) : OffsetStack := ⟨offset :: s.offsets⟩

/-- The stack without its top. -/
def pop (s : OffsetStack) : OffsetStack := ⟨s.offsets.tail⟩

/-- Where the present page began. -/
def current? (s : OffsetStack) : Option Nat := s.offsets.head?

/-- How many pages there are. -/
def depth (s : OffsetStack) : Nat := s.offsets.length

/-- The offsets from the first page to the present one. -/
def toList (s : OffsetStack) : List Nat := s.offsets.reverse

@[simp] theorem toList_empty : empty.toList = [] := rfl

@[simp] theorem toList_push (s : OffsetStack) (offset : Nat) :
    (s.push offset).toList = s.toList ++ [offset] := by simp [toList, push]

@[simp] theorem toList_pop (s : OffsetStack) : s.pop.toList = s.toList.dropLast := by
  simp [toList, pop]

@[simp] theorem length_toList (s : OffsetStack) : s.toList.length = s.depth := by
  simp [toList, depth]

end OffsetStack

end Depot
