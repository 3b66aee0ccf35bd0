import Depot.Json.Document

/-!
# Records

A record is a document of the server about a folder, an item or a file.  Only its identifier, its name and
the type of thing it describes are looked at; everything else belongs to whoever reads it.

A record holds an object in normal form, so two records with the same fields are equal and are written
alike.  `Record.ofFields?` is the one way in from a list of fields in any order.
-/

namespace Depot

/-- A document of the server: named fields in ascending order. -/
structure Record where
  fields : List (String × Json)
  normal : (Json.object fields).isNormal = true

namespace Record

@[ext] theorem ext {a b : Record} (h : a.fields = b.fields) : a = b := by
  cases a; cases b; simp_all

instance : DecidableEq Record := fun a b =>
  if h : a.fields = b.fields then isTrue (ext h) else isFalse fun e => h (e ▸ rfl)

/-- The record without fields. -/
def empty : Record := ⟨[], rfl⟩

instance : Inhabited Record := ⟨empty⟩

/-- The value that a record is. -/
def toJson (r : Record) : Json := .object r.fields

/-- The record that a value is, if it is an object in normal form. -/
def ofJson? : Json → Option Record
  | .object fields =>
    if h : (Json.object fields).isNormal = true then some ⟨fields, h⟩ else none
  | _ => none

/-- The record with these fields in any order; the last one of a key counts. -/
def ofFields? (fields : List (String × Json)) : Option Record := ofJson? (.ofFields fields)

/-! ### Fields -/

def get? (r : Record) (key : String) : Option Json := r.fields.lookup key

def getString? (r : Record) (key : String) : Option String := (r.get? key).bind Json.string?

/-- The unique identifier. -/
def id? (r : Record) : Option String := r.getString? "_id"

/-- The name, which most listings carry. -/
def name? (r : Record) : Option String := r.getString? "name"

/-- What kind of thing the record describes: a file, an item, a folder, an upload. -/
def modelType? (r : Record) : Option String := r.getString? "_modelType"

/-! ### Dropping a field -/

theorem fieldsAreNormal_filter (keep : String × Json → Bool) {fields : List (String × Json)}
    (h : Json.fieldsAreNormal fields = true) :
    Json.fieldsAreNormal (fields.filter keep) = true := by
  induction fields with
  | nil => simpa using h
  | cons f rest ih =>
    obtain ⟨k, v⟩ := f
    simp only [Json.fieldsAreNormal, Bool.and_eq_true] at h
    rw [List.filter_cons]
    split
    · simp [Json.fieldsAreNormal, h.1, ih h.2]
    · exact ih h.2

theorem isNormal_filter (keep : String × Json → Bool) {fields : List (String × Json)}
    (h : (Json.object fields).isNormal = true) :
    (Json.object (fields.filter keep)).isNormal = true := by
  simp only [Json.isNormal, Bool.and_eq_true, decide_eq_true_eq] at h ⊢
  exact ⟨h.1.filter keep, fieldsAreNormal_filter keep h.2⟩

/-- The record without a field. -/
def erase (r : Record) (key : String) : Record :=
  ⟨r.fields.filter (·.1 != key), isNormal_filter _ r.normal⟩

end Record

/-! ### Reading records -/

/-- A record, from a document. -/
def Json.Document.record? (d : Json.Document) : Option Record :=
  (d.keep depthLimit).bind Record.ofJson?

/-- A list of records, from a document. -/
def Json.Document.records? (d : Json.Document) : Option (List Record) := do
  match ← d.keep depthLimit with
  | .array items => items.mapM Record.ofJson?
  | _ => none

end Depot
