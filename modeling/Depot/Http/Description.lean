import Depot.Http.Request
import Depot.Text.Quoted

/-!
# Requests in writing

A one-line description of a request with all that is in it, texts in quotation marks.
-/

namespace Depot

/-- Some descriptions with commas between them. -/
def commaSeparated (items : List String) : String := ", ".intercalate items

namespace Json

mutual

/-- A value with the kinds of its parts. -/
def describe : Json → String
  | null => "Null"
  | bool b => "Bool(" ++ toString b ++ ")"
  | int n => "Number(" ++ toString n ++ ")"
  | decimal significand exponent =>
    "Number(" ++ toString significand ++ "e" ++ toString exponent ++ ")"
  | str s => "String(" ++ quoted s ++ ")"
  | array items => "Array [" ++ commaSeparated (describeItems items) ++ "]"
  | object fields => "Object \x7b" ++ commaSeparated (describeFields fields) ++ "\x7d"

def describeItems : List Json → List String
  | [] => []
  | v :: rest => v.describe :: describeItems rest

def describeFields : List (String × Json) → List String
  | [] => []
  | (k, v) :: rest => (quoted k ++ ": " ++ v.describe) :: describeFields rest

end

end Json

/-- Pairs of texts. -/
def describePairs (pairs : List (String × String)) : String :=
  "[" ++ commaSeparated (pairs.map fun p => "(" ++ quoted p.1 ++ ", " ++ quoted p.2 ++ ")") ++ "]"

def Target.describe : Target → String
  | path p => "Path(" ++ quoted p ++ ")"
  | url u => "Url(" ++ quoted u ++ ")"

def Body.describe : Body → String
  | empty => "Empty"
  | json v => "Json(" ++ v.describe ++ ")"
  | form pairs => "Form(" ++ describePairs pairs ++ ")"
  | bytes data => "Bytes([" ++ commaSeparated (data.map fun b => toString b.toNat) ++ "])"
  | text s => "Text(" ++ quoted s ++ ")"

/-- All that is in a request. -/
def Request.describe (r : Request) : String :=
  "ApiRequest \x7b " ++ commaSeparated
    ["method: " ++ r.method, "target: " ++ r.target.describe, "query: " ++ describePairs r.query,
      "headers: " ++ describePairs r.headers, "body: " ++ r.body.describe,
      "on_progress: " ++ toString r.reportsProgress] ++ " \x7d"

end Depot
