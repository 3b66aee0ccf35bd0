import Depot.Disk.Basic
import Depot.Json.Fields
import Depot.Settings.Basic
import Depot.Text.Blank
import Depot.Text.Number

/-!
# Where settings come from

A layer of settings is read from one of three places.

* A configuration file (`Layer.ofFile`) is a JSON object.  A key that is missing or has a value of another
  type sets nothing.  The file is looked for where the program runs and then among the user's own; the first
  one that is there counts, and if it cannot be read, nothing is set.
* The environment (`Layer.ofVariables`): a variable that is blank sets nothing, nor does one that should be
  a number and is none.  White space around a number does not count.
* A strict document (`Layer.read?`) has to be right as a whole.
-/

namespace Depot.Settings.Layer

open Json (Document)
open Json.Document (fields withDefault optional)

/-! ### Configuration files -/

/-- A whole number as a configuration file can hold it: with a sign, in 64 bits. -/
def fileNat? : Json → Option Nat
  | .int n => if 0 ≤ n ∧ n < 0x8000000000000000 then some n.toNat else none
  | _ => none

/-- The layer of a configuration file. -/
def ofFile (v : Json) : Layer :=
  { apiUrl := (v.get? "api_url").bind Json.string?
    token := (v.get? "token").bind Json.string?
    requestTimeout := (v.get? "request_timeout").bind fileNat?
    userAgent := (v.get? "user_agent").bind Json.string?
    pageLimit := (v.get? "page_limit").bind fileNat?
    chunkSize := (v.get? "upload_chunk_size").bind fileNat? }

/-- Where a configuration file may be, the preferred place first. -/
def filePlaces (home : String) : List String := ["girder.json", s!"{home}/.config/girder.json"]

/-- The layer of the first configuration file that is there. -/
def ofFiles (contents? : String → Option Bytes) (home : String) : Layer :=
  match (filePlaces home).findSome? contents? with
  | some content => ((Json.parse content).map ofFile).getD empty
  | none => empty

/-! ### The environment -/

/-- The variable with this name, unless it is blank. -/
def variableOf (lookup : String → Option String) (name : String) : Option String :=
  (lookup s!"GIRDER_{name}").filter fun value => !(trimBlank value).isEmpty

/-- The number in the variable with this name. -/
def number? (lookup : String → Option String) (name : String) : Option Nat :=
  (variableOf lookup name).bind fun value => (readNatural limit64 (trimBlank value)).toOption

/-- The layer of an environment. -/
def ofVariables (lookup : String → Option String) : Layer :=
  { apiUrl := variableOf lookup "API_URL"
    token := variableOf lookup "TOKEN"
    requestTimeout := number? lookup "REQUEST_TIMEOUT"
    userAgent := variableOf lookup "USER_AGENT"
    pageLimit := number? lookup "PAGE_LIMIT"
    chunkSize := number? lookup "UPLOAD_CHUNK_SIZE" }

/-! ### Strict documents -/

/-- The layer of a document in which nothing is wrong. -/
def read? (d : Document) : Option Layer := do
  let names :=
    ["api_url", "token", "request_timeout", "user_agent", "page_limit", "upload_chunk_size"]
  match ← fields names d with
  | [apiUrl, token, requestTimeout, userAgent, pageLimit, chunkSize] =>
    return {
      apiUrl := ← withDefault none (optional Document.string?) apiUrl
      token := ← withDefault none (optional Document.string?) token
      requestTimeout := ← withDefault none (optional Document.nat?) requestTimeout
      userAgent := ← withDefault none (optional Document.string?) userAgent
      pageLimit := ← withDefault none (optional Document.nat?) pageLimit
      chunkSize := ← withDefault none (optional Document.nat?) chunkSize }
  | _ => none

end Depot.Settings.Layer
