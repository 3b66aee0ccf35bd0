import Depot.Json.Basic

/-!
# Writing JSON

The compact form: no white space, fields in the order in which the value lists them.  Inside a string only
the quotation mark, the backslash and the control characters are escaped, the usual ones by a letter and
the others by four lower-case hexadecimal digits.  A decimal fraction is written as its significand and
its power of ten.
-/

namespace Depot.Json

/-- A hexadecimal digit in lower case. -/
def hexDigit (n : Nat) : Char := (Nat.digitChar (n % 16))

/-- The written form of one character of a string. -/
def escapeChar (c : Char) : List Char :=
  if c = '"' then ['\\', '"']
  else if c = '\\' then ['\\', '\\']
  else if c.toNat < 0x20 then
    if c = '\n' then ['\\', 'n']
    else if c = '\t' then ['\\', 't']
    else if c = '\r' then ['\\', 'r']
    else if c.toNat = 8 then ['\\', 'b']
    else if c.toNat = 12 then ['\\', 'f']
    else ['\\', 'u', '0', '0', hexDigit (c.toNat / 16), hexDigit c.toNat]
  else [c]

/-- A string in quotation marks. -/
def quote (s : String) : List Char := '"' :: s.toList.flatMap escapeChar ++ ['"']

/-- A whole number in decimal digits. -/
def digits (n : Int) : List Char := (toString n).toList

mutual

/-- The compact form of a value, put in front of what follows. -/
def write : Json → List Char → List Char
  | null, rest => "null".toList ++ rest
  | bool true, rest => "true".toList ++ rest
  | bool false, rest => "false".toList ++ rest
  | int n, rest => digits n ++ rest
  | decimal significand exponent, rest => digits significand ++ 'e' :: (digits exponent ++ rest)
  | str s, rest => quote s ++ rest
  | array items, rest => '[' :: writeItems items (']' :: rest)
  | object fields, rest => '{' :: writeFields fields ('}' :: rest)

/-- The items of an array, commas between them. -/
def writeItems : List Json → List Char → List Char
  | [], rest => rest
  | [v], rest => v.write rest
  | v :: w :: more, rest => v.write (',' :: writeItems (w :: more) rest)

/-- The fields of an object, commas between them. -/
def writeFields : List (String × Json) → List Char → List Char
  | [], rest => rest
  | [(k, v)], rest => quote k ++ ':' :: v.write rest
  | (k, v) :: f :: more, rest => quote k ++ ':' :: v.write (',' :: writeFields (f :: more) rest)

end

/-- The compact text of a value. -/
def render (v : Json) : String := String.ofList (v.write [])

end Depot.Json
