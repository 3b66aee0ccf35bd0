import Depot.Upload.Step

/-!
# The next step, by the mode of a session

How the bytes travel does not change while a session is under way, so what is proved of the sessions of one
mode needs the steps of that mode only.
-/

namespace Depot

variable {chunkSize : ChunkSize} {s : Session}

/-! ### Through the server -/

section Server

variable (h : s.mode = .server)

include h

theorem step_authorizing_server : step chunkSize s .authorizing = askOffset s h := by
  cases s
  cases h
  rfl

theorem step_transferring_server : step chunkSize s .transferring = sendChunk chunkSize s h := by
  cases s
  cases h
  rfl

/-- A session whose bytes go through the server is complete with the last chunk. -/
theorem step_completing_server : step chunkSize s .completing =
    pure (.failed (.misfit .missingFile) s) := by
  cases s
  cases h
  rfl

end Server

/-! ### Straight to storage, in one request -/

section Single

variable {signed : SignedRequest} (h : s.mode = .single signed)

include h

theorem step_authorizing_single : step chunkSize s .authorizing = askSignature s ⟨signed, h⟩ := by
  cases s
  cases h
  rfl

theorem step_transferring_single : step chunkSize s .transferring = sendWhole s signed h := by
  cases s
  cases h
  rfl

theorem step_completing_single : step chunkSize s .completing = completeWhole s := by
  cases s
  cases h
  rfl

end Single

/-! ### Straight to storage, in parts -/

section Parts

variable {m : Multipart} (h : s.mode = .multipart m)

theorem step_authorizing_multipart : step chunkSize s .authorizing = askParts s h := by
  cases s
  cases h
  rfl

theorem step_opening (closed : m.storageId = none) :
    step chunkSize s .transferring = openStorage s m h closed := by
  cases s
  cases h
  show sendNextPart _ m rfl = _
  rw [sendNextPart]
  split
  · rfl
  · next opened => exact absurd (closed.symm.trans opened) (Option.some_ne_none _).symm

theorem step_part {storageId : String} (opened : m.storageId = some storageId) :
    step chunkSize s .transferring = sendPart s m storageId h opened := by
  cases s
  cases h
  show sendNextPart _ m rfl = _
  rw [sendNextPart]
  split
  · next closed => exact absurd (closed.symm.trans opened) (Option.some_ne_none _).symm
  · next other same =>
    obtain rfl : storageId = other := Option.some.inj (opened.symm.trans same)
    rfl

include h in
theorem step_completing_multipart : step chunkSize s .completing = completeParts s m := by
  cases s
  cases h
  rfl

end Parts

end Depot
