import Depot.Json.Document

/-!
# Reading typed data out of a document

A structure is written either as an object or as an array of its fields in their order.  Both readings
start with `Document.fields`, which lists for each expected field what was given for it, if anything.

* In an object every key must have a text, an expected key may occur once, and other keys are skipped
  together with whatever they hold.
* In an array, fields may be missing at the end, but nothing may follow the last one.

The readers of single values never convert: a whole number is no string, `1.0` is no whole number, and
`null` stands for an absent value only where `optional` allows it.
-/

namespace Depot.Json.Document

/-! ### Single values -/

def string? : Document → Option String
  | text s => s
  | _ => none

def bool? : Document → Option Bool
  | bool b => some b
  | _ => none

/-- A whole number between 0 and 2^64. -/
def nat? : Document → Option Nat
  | number (some (.int n)) => if 0 ≤ n then some n.toNat else none
  | _ => none

/-- `null` for an absent value. -/
def optional {α : Type} (read : Document → Option α) : Document → Option (Option α)
  | null => some none
  | d => (read d).map some

/-- An object whose values are all read alike; the last one of a key counts. -/
def dictionary? {α : Type} (read : Document → Option α) : Document → Option (Dictionary α)
  | object members => do
    let entries ← members.mapM fun m => do
      let key ← m.1
      let value ← read m.2
      return (key, value)
    return .ofList entries
  | _ => none

/-! ### Structures -/

/-- What the members give for one key: nothing, or one document; `none` if the key is repeated. -/
def member (members : List (Option String × Document)) (name : String) :
    Option (Option Document) :=
  match members.filter (·.1 == some name) with
  | [] => some none
  | [(_, d)] => some (some d)
  | _ => none

/-- What a structure gives for each of the named fields. -/
def fields (names : List String) : Document → Option (List (Option Document))
  | object members =>
    if members.all (·.1.isSome) then names.mapM (member members) else none
  | array items =>
    if items.length ≤ names.length then
      some (items.map some ++ List.replicate (names.length - items.length) none)
    else none
  | _ => none

/-- A field that must be given. -/
def required {α : Type} (read : Document → Option α) (given : Option Document) : Option α :=
  given.bind read

/-- A field that has a value of its own where none is given. -/
def withDefault {α : Type} (default : α) (read : Document → Option α) :
    Option Document → Option α
  | none => some default
  | some d => read d

end Depot.Json.Document
