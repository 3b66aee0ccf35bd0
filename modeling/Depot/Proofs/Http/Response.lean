import Depot.Http.Response
import Depot.Proofs.Json.RoundTrip

/-!
# What an answer with a document holds

An answer that was made of a value (`Response.ofJson`) is read as that value by every reader, since the
value comes back from its text.
-/

namespace Depot

open Json

theorem Record.ofJson?_toJson (r : Record) : Record.ofJson? r.toJson = some r := by
  rw [Record.toJson, Record.ofJson?, dif_pos r.normal]

namespace Response

/-- **What a reader makes of an answer that holds a value** is what it makes of the value. -/
theorem read_ofJson {α : Type} {v : Json} {reader : Document → Option α} {a : α}
    (normal : v.isNormal = true) (made : reader (.ofValue v) = some a) :
    (ofJson v).read reader = .ok a := by
  have document : Document.ofBytes (ofJson v).body = some (.ofValue v) := Document.ofBytes_write normal
  rw [read, document, Option.bind_some, made]

theorem record_ofJson {r : Record} (deep : r.toJson.depth ≤ Document.depthLimit) :
    (ofJson r.toJson).record = .ok r := by
  refine read_ofJson (v := r.toJson) r.normal ?_
  rw [Document.record?, Document.keep_ofValue r.toJson _ r.normal deep, Option.bind_some,
    Record.ofJson?_toJson]

theorem areNormal_map_toJson (records : List Record) :
    areNormal (records.map Record.toJson) = true := by
  induction records with
  | nil => rfl
  | cons r rest ih =>
    have first : r.toJson.isNormal = true := r.normal
    rw [List.map_cons, areNormal, first, ih, Bool.and_self]

theorem depthOfItems_map_toJson {records : List Record} {room : Nat}
    (deep : ∀ r ∈ records, r.toJson.depth ≤ room) :
    depthOfItems (records.map Record.toJson) ≤ room := by
  induction records with
  | nil => exact Nat.zero_le room
  | cons r rest ih =>
    rw [List.map_cons, depthOfItems]
    exact Nat.max_le.mpr ⟨deep r List.mem_cons_self, ih fun r' hr' => deep r' (List.mem_cons_of_mem r hr')⟩

theorem mapM_ofJson?_toJson (records : List Record) :
    (records.map Record.toJson).mapM Record.ofJson? = some records := by
  induction records with
  | nil => rfl
  | cons r rest ih => simp [Record.ofJson?_toJson, ih]

/-- A list of records is read as these records. -/
theorem records_ofJson {records : List Record}
    (deep : ∀ r ∈ records, r.toJson.depth < Document.depthLimit) :
    (ofJson (.array (records.map Record.toJson))).records = .ok records := by
  have normal : (Json.array (records.map Record.toJson)).isNormal = true := by
    rw [isNormal, areNormal_map_toJson]
  have room : (Json.array (records.map Record.toJson)).depth ≤ Document.depthLimit := by
    have inside : depthOfItems (records.map Record.toJson) ≤ Document.depthLimit - 1 :=
      depthOfItems_map_toJson fun r hr => Nat.le_sub_one_of_lt (deep r hr)
    rw [depth]
    have positive : 0 < Document.depthLimit := by decide
    omega
  refine read_ofJson normal ?_
  rw [Document.records?, Document.keep_ofValue _ _ normal room]
  exact mapM_ofJson?_toJson records

end Response

end Depot
