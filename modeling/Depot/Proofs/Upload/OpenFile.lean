import Depot.Upload.Source

/-!
# Filling a buffer from an open file

A single read gives as much as the system likes, so it is not known how often a buffer is read into.  What does
not change from one read to the next is what the buffer is going to hold (`OpenFile.promised`), and whether
enough of the file is ahead to fill it (`OpenFile.Fills`).  So the portions decide nothing: the buffer is filled
with the bytes ahead, each where it belongs, or the file ends too early (`readExact_eq`).
-/

namespace Depot.OpenFile

variable {p : Portions} {f : OpenFile} {b : ReadBuffer} {wanted : Nat}

/-! ### One read -/

theorem ahead_seek (n : Nat) : (f.seek (f.position + n)).ahead = f.ahead.drop n :=
  List.drop_drop.symm

/-- A read gives the bytes that come next, some number of them. -/
theorem exists_read (p : Portions) (f : OpenFile) (wanted : Nat) :
    ∃ n, n ≤ wanted ∧ n ≤ f.ahead.length ∧ f.read p wanted = f.ahead.take n := by
  refine ⟨min (min wanted (p.given f.position wanted)) f.ahead.length, by omega, by omega, ?_⟩
  rw [read, List.take_eq_take_min]

/-- Nothing is given at the end of the file, and only there. -/
theorem read_eq_nil_iff (wants : 0 < wanted) : f.read p wanted = [] ↔ f.ahead = [] := by
  have given := p.given_pos f.position wanted wants
  rw [read, List.take_eq_nil_iff]
  constructor
  · rintro (nothing | ended)
    · omega
    · exact ended
  · exact .inr

/-! ### What does not change from read to read -/

/-- What the buffer will hold: the bytes ahead, where its room is. -/
def promised (f : OpenFile) (b : ReadBuffer) : Bytes := b.filled ++ f.ahead.take b.room.length

/-- There are enough bytes ahead for the room of the buffer. -/
def Fills (f : OpenFile) (b : ReadBuffer) : Prop := b.room.length ≤ f.ahead.length

instance : Decidable (f.Fills b) := inferInstanceAs (Decidable (_ ≤ _))

/-- A read into the buffer neither alters what the buffer will hold, nor whether the file fills it. -/
theorem after_read {got : Bytes} (read : f.read p b.room.length = got) :
    (f.seek (f.position + got.length)).promised (b.put got) = f.promised b ∧
      ((f.seek (f.position + got.length)).Fills (b.put got) ↔ f.Fills b) := by
  obtain ⟨n, fits, there, taken⟩ := exists_read p f b.room.length
  obtain rfl : got = f.ahead.take n := read.symm.trans taken
  have length : (f.ahead.take n).length = n := by rw [List.length_take, Nat.min_eq_left there]
  constructor
  · calc b.filled ++ f.ahead.take n ++ (f.seek (f.position + (f.ahead.take n).length)).ahead.take
          (b.room.drop (f.ahead.take n).length).length
        = b.filled ++ (f.ahead.take n ++ (f.ahead.drop n).take (b.room.length - n)) := by
          rw [length, ahead_seek, List.length_drop, List.append_assoc]
      _ = b.filled ++ f.ahead.take b.room.length := by
          rw [← List.take_add, Nat.add_sub_cancel' fits]
  · rw [Fills, Fills, ReadBuffer.put, length, ahead_seek, List.length_drop, List.length_drop]
    omega

/-! ### All reads -/

/-- **A buffer is filled with the bytes ahead, or the file ends too early**, whatever the portions are. -/
theorem readExact_eq (p : Portions) (f : OpenFile) (b : ReadBuffer) :
    f.readExact p b = if f.Fills b then .ok (f.promised b) else .error .early := by
  fun_induction OpenFile.readExact p f b with
  | case1 f b full =>
    have fills : f.Fills b := by simp [Fills, full]
    simp [fills, promised, ReadBuffer.bytes, full]
  | case2 f b unfilled got nothing =>
    have room : 0 < b.room.length := List.length_pos_iff.mpr unfilled
    have ended : f.ahead = [] := (read_eq_nil_iff room).mp nothing
    have short : ¬ f.Fills b := by
      rw [Fills, ended, List.length_nil]
      omega
    rw [if_neg short]
  | case3 f b unfilled got something ih =>
    obtain ⟨promises, fills⟩ := after_read (rfl : f.read p b.room.length = got)
    rw [ih, promises]
    by_cases enough : f.Fills b
    · rw [if_pos enough, if_pos (fills.mpr enough)]
    · rw [if_neg enough, if_neg (mt fills.mp enough)]

/-- From a place of a file into a buffer of zeros: none of the zeros is left. -/
theorem readExact_zeros (p : Portions) (data : Bytes) (start length : Nat) :
    ((OpenFile.mk data 0).seek start).readExact p (.zeros length) =
      if length ≤ data.length - start then .ok ((data.drop start).take length) else .error .early := by
  have room : (ReadBuffer.zeros length).room.length = length := List.length_replicate
  have ahead : ((OpenFile.mk data 0).seek start).ahead = data.drop start := rfl
  rw [readExact_eq]
  simp only [Fills, promised, room, ahead, List.length_drop]
  rfl

end Depot.OpenFile
