import Depot.Proofs.Dictionary
import Depot.Proofs.Http.Request
import Depot.Proofs.Text.Number
import Depot.Proofs.Upload.OpenFile
import Depot.Upload.Step

/-!
# What a source holds

A source `Holds` some bytes as long as a read of it can only give slices of them: bytes in memory for ever,
a file on disk while it is what it was when it was opened.  Consecutive slices make up the bytes before
their end (`take_append_slice`).  How many bytes there are is announced with an upload
(`queryNatural_initiationRequest`), and a record of the file comes back in the end.
-/

namespace Depot

/-- The size of the file is announced with the upload. -/
theorem queryNatural_initiationRequest (target : UploadTarget) {file : UploadFile} (fits : file.size < limit64) :
    Listing.queryNatural (initiationRequest target file) "size" = file.size := by
  refine Listing.queryNatural_eq ?_ fits
  cases target <;> simp [initiationRequest, Request.queryValue?, lookup_cons]

namespace ByteSource

/-- The source reads as these bytes; `contents` gives what the files on disk hold. -/
def Holds (contents : String → Option Bytes) (s : ByteSource) (data : Bytes) : Prop :=
  match s with
  | memory held => held = data
  | disk path size => contents path = some data ∧ size = data.length

variable {contents : String → Option Bytes} {s : ByteSource} {data : Bytes}

theorem Holds.size_eq (h : s.Holds contents data) : s.size = data.length := by
  cases s with
  | memory held => exact congrArg List.length h
  | disk path size => exact h.2

theorem covers_iff (s : ByteSource) {start stop : Nat} :
    s.covers start stop = true ↔ start ≤ stop ∧ stop ≤ s.size :=
  decide_eq_true_iff

/-- What is no part of the source is not read. -/
theorem readRangeBy_outside (p : Portions) {start stop : Nat} (outside : ¬ (start ≤ stop ∧ stop ≤ s.size)) :
    s.readRangeBy p contents start stop = .error (.outside start stop s.size) :=
  if_neg (mt s.covers_iff.mp outside)

/-- A part of a file on disk is read as the slice that the file has there now, if it has so many bytes there. -/
theorem readRangeBy_disk (p : Portions) {path : String} {size start stop : Nat} (found : contents path = some data)
    (order : start ≤ stop) (inside : stop ≤ size) :
    (disk path size).readRangeBy p contents start stop =
      if stop - start ≤ data.length - start then .ok (slice data start stop) else .error .early := by
  rw [readRangeBy, if_pos ((disk path size).covers_iff.mpr ⟨order, inside⟩)]
  simp only [found]
  exact OpenFile.readExact_zeros p data start (stop - start)

/-- A file that is gone is not read. -/
theorem readRangeBy_missing (p : Portions) {path : String} {size start stop : Nat} (gone : contents path = none)
    (order : start ≤ stop) (inside : stop ≤ size) :
    (disk path size).readRangeBy p contents start stop = .error .missing := by
  rw [readRangeBy, if_pos ((disk path size).covers_iff.mpr ⟨order, inside⟩)]
  simp only [gone]

/-- A range inside the source is read as the slice that it is, whatever the portions. -/
theorem Holds.readRangeBy_eq (h : s.Holds contents data) (p : Portions) {start stop : Nat} (order : start ≤ stop)
    (inside : stop ≤ data.length) :
    s.readRangeBy p contents start stop = .ok (slice data start stop) := by
  cases s with
  | memory held =>
    obtain rfl : held = data := h
    exact if_pos ((memory held).covers_iff.mpr ⟨order, inside⟩)
  | disk path size =>
    obtain ⟨found, rfl⟩ := h
    rw [readRangeBy_disk p found order inside, if_pos (Nat.sub_le_sub_right inside start)]

/-- A range inside the source is read as the slice that it is. -/
theorem Holds.readRange_eq (h : s.Holds contents data) {start stop : Nat} (order : start ≤ stop)
    (inside : stop ≤ data.length) :
    s.readRange contents start stop = .ok (slice data start stop) :=
  h.readRangeBy_eq .buffered order inside

@[simp] theorem length_slice {start stop : Nat} (inside : stop ≤ data.length) :
    (slice data start stop).length = stop - start := by
  rw [slice, List.length_take, List.length_drop]
  omega

/-- The slice from the first byte to the last is everything. -/
theorem slice_all (data : Bytes) : slice data 0 data.length = data := by
  rw [slice, List.drop_zero, Nat.sub_zero, List.take_length]

/-- Everything is read at once. -/
theorem Holds.readRange_whole (h : s.Holds contents data) : s.readRange contents 0 s.size = .ok data := by
  rw [h.size_eq, h.readRange_eq (Nat.zero_le _) (Nat.le_refl _), slice_all]

/-- What has been read up to here, and the next slice. -/
theorem take_append_slice {start stop : Nat} (order : start ≤ stop) :
    data.take start ++ slice data start stop = data.take stop := by
  rw [slice, ← List.take_add, Nat.add_sub_cancel' order]

end ByteSource

/-! ### Records of files -/

/-- The record of a file as a server in plain words writes it. -/
theorem isNormal_plainFile :
    (Json.object [("_id", .str "f1"), ("_modelType", .str "file")]).isNormal = true := by
  decide +kernel

end Depot
