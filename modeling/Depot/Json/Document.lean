import Depot.Json.Token

/-!
# JSON documents

A `Document` is a JSON text whose structure has been read and whose contents nobody has looked at yet: a
string may have no text, a number may be out of range, keys may be repeated, containers may be nested to
any depth.  Two kinds of readers look at it.

* `keep` takes the whole document as a `Json` value and accepts nothing that a value cannot hold; of a
  repeated key the last field counts, and at most `depthLimit` containers may be nested.
* the typed readers (`Json.Fields`) take the fields they know and never look at the others.

The structure is read by a machine with a stack of open containers (`Builder.feed`), one token at a time.
-/

namespace Depot.Json

/-- A JSON text as written.  Strings and numbers that have no value are `none`. -/
inductive Document where
  | null
  | bool (value : Bool)
  | number (value : Option Json)
  | text (value : Option String)
  | array (items : List Document)
  | object (members : List (Option String × Document))

instance : Inhabited Document := ⟨.null⟩

/-! ### Building the document -/

/-- An open container with what it holds so far, last first. -/
inductive Frame where
  | array (items : List Document)
  | object (members : List (Option String × Document)) (key : Option String)

/-- What may come next. -/
inductive Builder where
  /-- A value, or the end of an array that has just been opened. -/
  | value (stack : List Frame) (opened : Bool)
  /-- A key, or the end of an object that has just been opened. -/
  | key (stack : List Frame) (members : List (Option String × Document)) (opened : Bool)
  /-- The colon behind a key. -/
  | colon (stack : List Frame) (members : List (Option String × Document)) (key : Option String)
  /-- A comma or the end of the innermost container. -/
  | more (stack : List Frame)
  /-- Nothing: the document is complete. -/
  | finished (document : Document)

namespace Builder

/-- A value is complete: it goes into the innermost open container. -/
def deliver (d : Document) : List Frame → Builder
  | [] => finished d
  | .array items :: stack => more (.array (d :: items) :: stack)
  | .object members k :: stack => more (.object ((k, d) :: members) k :: stack)

/-- One more token. -/
def feed : Builder → Token → Option Builder
  | value stack _, .null => some (deliver .null stack)
  | value stack _, .bool b => some (deliver (.bool b) stack)
  | value stack _, .number n => some (deliver (.number n) stack)
  | value stack _, .text s => some (deliver (.text s) stack)
  | value stack _, .openArray => some (value (.array [] :: stack) true)
  | value stack _, .openObject => some (key stack [] true)
  | value (.array [] :: stack) true, .closeArray => some (deliver (.array []) stack)
  | key stack members _, .text k => some (colon stack members k)
  | key stack _ true, .closeObject => some (deliver (.object []) stack)
  | colon stack members k, .colon => some (value (.object members k :: stack) false)
  | more (.array items :: stack), .comma => some (value (.array items :: stack) false)
  | more (.array items :: stack), .closeArray => some (deliver (.array items.reverse) stack)
  | more (.object members _ :: stack), .comma => some (key stack members false)
  | more (.object members _ :: stack), .closeObject => some (deliver (.object members.reverse) stack)
  | _, _ => none

/-- The document that the tokens from here on complete. -/
def build : Builder → List Token → Option Document
  | finished d, [] => some d
  | _, [] => none
  | b, t :: rest => (b.feed t).bind (build · rest)

end Builder

namespace Document

/-- The document with this text. -/
def ofBytes (text : Bytes) : Option Document := do
  let words ← tokens text
  Builder.build (.value [] false) words

/-! ### Keeping the whole document -/

/-- How many containers may be nested in a document that is kept. -/
def depthLimit : Nat := 127

mutual

/-- The value of a document in which at most `room` containers are nested. -/
def keep (room : Nat) : Document → Option Json
  | null => some .null
  | bool b => some (.bool b)
  | number n => n
  | text s => s.map .str
  | array items => if room = 0 then none else (keepItems (room - 1) items).map .array
  | object members => if room = 0 then none else (keepMembers (room - 1) members).map .ofFields

def keepItems (room : Nat) : List Document → Option (List Json)
  | [] => some []
  | d :: rest => do
    let v ← keep room d
    let more ← keepItems room rest
    return v :: more

def keepMembers (room : Nat) : List (Option String × Document) → Option (List (String × Json))
  | [] => some []
  | (key, d) :: rest => do
    let key ← key
    let v ← keep room d
    let more ← keepMembers room rest
    return (key, v) :: more

end

/-! ### A value as a document -/

mutual

/-- A value, seen as the document that writes it. -/
def ofValue : Json → Document
  | .null => null
  | .bool b => bool b
  | .int n => number (some (.int n))
  | .decimal s e => number (some (.decimal s e))
  | .str s => text (some s)
  | .array items => array (ofItems items)
  | .object fields => object (ofFields fields)

def ofItems : List Json → List Document
  | [] => []
  | v :: rest => ofValue v :: ofItems rest

def ofFields : List (String × Json) → List (Option String × Document)
  | [] => []
  | (k, v) :: rest => (some k, ofValue v) :: ofFields rest

end

end Document

/-- The value of a JSON text. -/
def parse (text : Bytes) : Option Json := do
  let d ← Document.ofBytes text
  d.keep Document.depthLimit

end Depot.Json
