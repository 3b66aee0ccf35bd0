import Depot.Text.Numeral
import Depot.Text.Utf8

/-!
# Percent encoding

An address is written in the visible characters of ASCII.  Any other character, and those that would mean
something where they stand, are written as the bytes of their UTF-8 form, each by a percent sign and two
hexadecimal digits.

* `encode` does so for a part of an address; which visible characters have to be encoded depends on the part;
* `formEncode` is the stricter form for names and values of a query, where a space is a plus sign;
* `decode` reads the bytes of a part; a percent sign without two digits behind it stands for itself.
-/

namespace Depot.Percent

/-- An upper-case hexadecimal digit. -/
def hexDigit (n : Nat) : Char := (Nat.digitChar (n % 16)).toUpper

/-- A byte as a percent sign and two digits. -/
def encodeByte (b : UInt8) : List Char := ['%', hexDigit (b.toNat / 16), hexDigit b.toNat]

/-- A character by its bytes. -/
def encodeChar (c : Char) : List Char := (Utf8.encodeChar c).flatMap encodeByte

/-- A space or a visible character of ASCII. -/
def isPlain (c : Char) : Bool := 0x20 ≤ c.toNat ∧ c.toNat < 0x7F

/-- A part of an address in which these plain characters have to be encoded, and all that are not plain. -/
def encode (special : List Char) (text : List Char) : List Char :=
  text.flatMap fun c => if isPlain c && !special.contains c then [c] else encodeChar c

/-! ### The characters to be encoded, by the part of the address -/

/-- Where nothing has a meaning, nothing plain is encoded. -/
def leastSet : List Char := []

def fragmentSet : List Char := " \"<>`".toList

def querySet : List Char := " \"#<>".toList

/-- A query of a well-known scheme. -/
def wellKnownQuerySet : List Char := '\'' :: querySet

def pathSet : List Char := fragmentSet ++ "#?^\x7b\x7d".toList

/-- User names and passwords. -/
def loginSet : List Char := pathSet ++ "/:;=@[\\]|".toList

/-! ### Forms -/

/-- The characters that a form leaves as they are. -/
def isFormChar (c : Char) : Bool := c.isAlphanum || "*-._".toList.contains c

/-- A name or a value of a form. -/
def formEncode (text : List Char) : List Char :=
  text.flatMap fun c => if isFormChar c then [c] else if c = ' ' then ['+'] else encodeChar c

/-- Names and values of a form, joined. -/
def formPairs (pairs : List (String × String)) : List Char :=
  ['&'].intercalate (pairs.map fun p => formEncode p.1.toList ++ '=' :: formEncode p.2.toList)

/-! ### Reading -/

/-- The bytes that a part of an address stands for. -/
def decode : List Char → Bytes
  | [] => []
  | '%' :: a :: b :: rest =>
    match numeral? 16 [a, b] with
    | some n => Utf8.byte n :: decode rest
    | none => Utf8.byte '%'.toNat :: decode (a :: b :: rest)
  | c :: rest => Utf8.encodeChar c ++ decode rest

end Depot.Percent
