import Depot.Proofs.Upload.Source
import Depot.Upload.File

/-!
# Memory and disk agree

The same bytes can be uploaded from memory and from a file on disk.  The first are a slice of what is held; the
second are read anew for every range, from a file that may have changed since its size was recorded.

What is read is compared with the contents by `IsRange`, which knows nothing of how it was read: it splits them
into what is before the range, the range, and what is behind it.  From the one theorem on a single range follows
the one on a whole upload: the ranges divide the file (`Divides`), and by induction on them what has been read
so far is always the beginning of the contents (`Holds.mapM_readings`).
-/

namespace Depot

/-- The bytes of `data` from `start` up to `stop`: all of them, in their place, and no others. -/
def IsRange (data : Bytes) (start stop : Nat) (bytes : Bytes) : Prop :=
  ∃ before behind, data = before ++ bytes ++ behind ∧ before.length = start ∧ start + bytes.length = stop

theorem isRange_slice {data : Bytes} {start stop : Nat} (order : start ≤ stop) (inside : stop ≤ data.length) :
    IsRange data start stop (ByteSource.slice data start stop) := by
  refine ⟨data.take start, data.drop stop, ?split, ?before, ?bytes⟩
  case split => rw [ByteSource.take_append_slice order, List.take_append_drop]
  case before => rw [List.length_take, Nat.min_eq_left (Nat.le_trans order inside)]
  case bytes => rw [ByteSource.length_slice inside, Nat.add_sub_cancel' order]

/-! ### Opening -/

/-- A path can be opened exactly if it leads to a file, whose length is the size of the source from then on. -/
theorem ByteSource.open?_eq_ok_iff {d : Disk} {path : String} {s : ByteSource} :
    ByteSource.open? d path = .ok s ↔ ∃ data, d.contents? path = some data ∧ s = .disk path data.length := by
  rw [ByteSource.open?, Disk.contents?]
  rcases d.find path with e | (data | -) <;> simp [eq_comm]

/-! ### Readings -/

/-- A range that is read at some moment: what the disk holds then, and in what portions the system gives it. -/
structure Reading where
  contents : String → Option Bytes
  portions : Portions
  start : Nat
  stop : Nat

/-- What a reading of a source comes to. -/
def Reading.of (r : Reading) (s : ByteSource) : Except IoError Bytes :=
  s.readRangeBy r.portions r.contents r.start r.stop

/-- One after another, the readings divide what is between two places; a range may be empty. -/
inductive Divides : Nat → Nat → List Reading → Prop
  | nothing (place : Nat) : Divides place place []
  | range {contents : String → Option Bytes} {portions : Portions} {start next stop : Nat} {rest : List Reading}
      (order : start ≤ next) (more : Divides next stop rest) :
      Divides start stop (⟨contents, portions, start, next⟩ :: rest)

theorem Divides.le {start stop : Nat} {readings : List Reading} (h : Divides start stop readings) : start ≤ stop := by
  induction h with
  | nothing place => exact Nat.le_refl place
  | range order more ih => exact Nat.le_trans order ih

namespace ByteSource

/-- Where two sources hold the same bytes, any range is read alike, also one that is refused. -/
theorem Holds.readRangeBy_congr {s s' : ByteSource} {contents : String → Option Bytes} {data : Bytes}
    (h : s.Holds contents data) (h' : s'.Holds contents data) (p : Portions) (start stop : Nat) :
    s.readRangeBy p contents start stop = s'.readRangeBy p contents start stop := by
  have sizes : s.size = s'.size := h.size_eq.trans h'.size_eq.symm
  by_cases part : start ≤ stop ∧ stop ≤ data.length
  · rw [h.readRangeBy_eq p part.1 part.2, h'.readRangeBy_eq p part.1 part.2]
  · rw [readRangeBy_outside p (h.size_eq ▸ part), readRangeBy_outside p (h'.size_eq ▸ part), sizes]

/-- As long as the source holds these bytes, no reading fails, and the next piece goes on where the last one
ended. -/
theorem Holds.mapM_readings {s : ByteSource} {data : Bytes} {start stop : Nat} {readings : List Reading}
    (divides : Divides start stop readings) (inside : stop ≤ data.length)
    (unchanged : ∀ r ∈ readings, s.Holds r.contents data) :
    ∃ pieces, readings.mapM (·.of s) = .ok pieces ∧ data.take start ++ pieces.flatten = data.take stop := by
  induction divides with
  | nothing place => exact ⟨[], rfl, by rw [List.flatten_nil, List.append_nil]⟩
  | @range contents portions start next stop rest order more ih =>
    obtain ⟨here, later⟩ := List.forall_mem_cons.mp unchanged
    obtain ⟨pieces, read, joined⟩ := ih inside later
    have first : (Reading.mk contents portions start next).of s = .ok (slice data start next) :=
      here.readRangeBy_eq portions order (Nat.le_trans more.le inside)
    refine ⟨slice data start next :: pieces, ?_, ?_⟩
    · rw [List.mapM_cons, first, read]
      rfl
    · rw [List.flatten_cons, ← List.append_assoc, take_append_slice order, joined]

/-- **Bytes in memory and a file on disk read alike.**  A file is opened when it holds `content`, which is also
held in memory.  Whatever the disk holds later, and in whatever portions it is read, a range that is no part of
the size recorded then is refused by both, with the same error.  Of any other, memory gives exactly the range of
`content`, and the file exactly that of what it holds now, if this reaches as far as the range does; if it does
not, or the file is gone, the read fails, unless there is nothing to read.  So the two read alike as long as the
file is what it was, and what is read of either in consecutive ranges makes up `content`. -/
theorem memory_and_disk_agree {opened : Disk} {path : String} {content : Bytes}
    (held : opened.contents? path = some content) :
    ∃ file, ByteSource.open? opened path = .ok file ∧
      (∀ p now start stop, stop < start ∨ content.length < stop → ∃ e : IoError, e.kind = .invalidInput ∧
        (memory content).readRangeBy p now start stop = .error e ∧ file.readRangeBy p now start stop = .error e) ∧
      (∀ p now start stop, start ≤ stop → stop ≤ content.length →
        (∃ bytes, (memory content).readRangeBy p now start stop = .ok bytes ∧ IsRange content start stop bytes) ∧
        (∀ data, now path = some data → stop ≤ data.length →
          ∃ bytes, file.readRangeBy p now start stop = .ok bytes ∧ IsRange data start stop bytes) ∧
        (∀ data, now path = some data → data.length < stop → start < stop →
          file.readRangeBy p now start stop = .error .early) ∧
        (∀ data, now path = some data → start = stop → file.readRangeBy p now start stop = .ok []) ∧
        (now path = none → file.readRangeBy p now start stop = .error .missing)) ∧
      (∀ p now, now path = some content → ∀ start stop,
        file.readRangeBy p now start stop = (memory content).readRangeBy p now start stop) ∧
      ∀ readings, Divides 0 content.length readings → (∀ r ∈ readings, r.contents path = some content) →
        ∀ s, s = memory content ∨ s = file →
          ∃ pieces, readings.mapM (·.of s) = .ok pieces ∧ pieces.flatten = content := by
  refine ⟨disk path content.length, open?_eq_ok_iff.mpr ⟨content, held, rfl⟩, ?refused, ?inside, ?alike, ?whole⟩
  case refused =>
    intro p now start stop outside
    have noRange : ¬ (start ≤ stop ∧ stop ≤ content.length) := by omega
    exact ⟨.outside start stop content.length, rfl, readRangeBy_outside p noRange, readRangeBy_outside p noRange⟩
  case inside =>
    intro p now start stop order inside
    have inMemory : (memory content).Holds now content := rfl
    refine ⟨⟨_, inMemory.readRangeBy_eq p order inside, isRange_slice order inside⟩, ?there, ?short, ?empty, ?gone⟩
    case there =>
      intro data found reaches
      rw [readRangeBy_disk p found order inside, if_pos (Nat.sub_le_sub_right reaches start)]
      exact ⟨_, rfl, isRange_slice order reaches⟩
    case short =>
      intro data found short nonempty
      rw [readRangeBy_disk p found order inside, if_neg (by omega)]
    case empty =>
      rintro data found rfl
      rw [readRangeBy_disk p found order inside, if_pos (by omega), slice, Nat.sub_self, List.take_zero]
    case gone =>
      intro gone
      exact readRangeBy_missing p gone order inside
  case alike =>
    intro p now unchanged start stop
    have onDisk : (disk path content.length).Holds now content := ⟨unchanged, rfl⟩
    have inMemory : (memory content).Holds now content := rfl
    exact onDisk.readRangeBy_congr inMemory p start stop
  case whole =>
    rintro readings divides unchanged s source
    have holds : ∀ r ∈ readings, s.Holds r.contents content := by
      intro r member
      rcases source with rfl | rfl
      · exact rfl
      · exact ⟨unchanged r member, rfl⟩
    obtain ⟨pieces, read, joined⟩ := Holds.mapM_readings divides (Nat.le_refl _) holds
    rw [List.take_zero, List.nil_append, List.take_length] at joined
    exact ⟨pieces, read, joined⟩

/-- Two bytes at a time: a file of five bytes, which is read whole, then cut to three, then deleted. -/
theorem memory_and_disk_agree_cut :
    let opened : Disk := { nodes := [(["a"], .file [1, 2, 3, 4, 5])] }
    let cut : Disk := opened.put ["a"] (.file [1, 2, 3])
    let p : Portions := ⟨fun _ wanted => min wanted 2, fun _ _ _ => by omega⟩
    opened.contents? "a" = some [1, 2, 3, 4, 5] ∧ ∃ file, open? opened "a" = .ok file ∧
      (∃ pieces, [Reading.mk opened.contents? p 0 3, ⟨opened.contents?, p, 3, 3⟩, ⟨opened.contents?, p, 3, 5⟩].mapM
        (·.of file) = .ok pieces ∧ pieces.flatten = [1, 2, 3, 4, 5]) ∧
      (∃ bytes, file.readRangeBy p cut.contents? 0 3 = .ok bytes ∧ IsRange [1, 2, 3] 0 3 bytes) ∧
      file.readRangeBy p cut.contents? 1 4 = .error .early ∧
      file.readRangeBy p (cut.delete ["a"]).contents? 1 4 = .error .missing := by
  intro opened cut p
  have held : opened.contents? "a" = some [1, 2, 3, 4, 5] := by decide +kernel
  have shortened : cut.contents? "a" = some [1, 2, 3] := by decide +kernel
  have gone : (cut.delete ["a"]).contents? "a" = none := by decide +kernel
  obtain ⟨file, isOpen, -, inside, -, whole⟩ := memory_and_disk_agree held
  obtain ⟨-, there, -⟩ := inside p cut.contents? 0 3 (by decide) (by decide)
  obtain ⟨-, -, early, -⟩ := inside p cut.contents? 1 4 (by decide) (by decide)
  obtain ⟨-, -, -, -, missing⟩ := inside p (cut.delete ["a"]).contents? 1 4 (by decide) (by decide)
  refine ⟨held, file, isOpen, ?_, there _ shortened (by decide), early _ shortened (by decide) (by decide),
    missing gone⟩
  refine whole [⟨_, p, 0, 3⟩, ⟨_, p, 3, 3⟩, ⟨_, p, 3, 5⟩] ?divides ?unchanged file (.inr rfl)
  case divides => exact .range (by decide) (.range (by decide) (.range (by decide) (.nothing 5)))
  case unchanged => simp [held]

end ByteSource

end Depot
