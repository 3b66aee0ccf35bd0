import Depot.Text.Utf8
import Depot.Json.Basic

/-!
# The words of a JSON text

A JSON text is read in two passes.  The first, here, cuts the bytes into tokens: marks, literals, numbers
and strings.  It is one sweep over the bytes (`Scanner.feed`), so it is total on its face.

A string token holds its text *if it has one*: a string with a lone half of a surrogate pair, or with bytes
that are no UTF-8, is a well-formed string of JSON without a text.  In the same way a number token holds
its value only if that is in range.  Whether this matters is decided later, by whoever looks at the value;
a field that nobody reads may hold such a string or number.
-/

namespace Depot.Json

/-- One word of a JSON text. -/
inductive Token where
  | openArray | closeArray | openObject | closeObject | comma | colon
  | null
  | bool (value : Bool)
  | number (value : Option Json)
  | text (value : Option String)
  deriving DecidableEq

/-! ### Strings -/

/-- What stands for one unit inside a string: a byte, or a number given by four hexadecimal digits. -/
inductive Piece where
  | byte (value : UInt8)
  | unit (value : Nat)

/-- The value of a hexadecimal digit. -/
def hexValue (b : UInt8) : Option Nat :=
  let n := b.toNat
  if 0x30 ≤ n ∧ n ≤ 0x39 then some (n - 0x30)
  else if 0x61 ≤ n ∧ n ≤ 0x66 then some (n - 0x61 + 10)
  else if 0x41 ≤ n ∧ n ≤ 0x46 then some (n - 0x41 + 10)
  else none

/-- The byte that a one-letter escape stands for. -/
def escapeValue (b : UInt8) : Option UInt8 :=
  match b.toNat with
  | 0x22 => some 0x22
  | 0x5C => some 0x5C
  | 0x2F => some 0x2F
  | 0x62 => some 0x08
  | 0x66 => some 0x0C
  | 0x6E => some 0x0A
  | 0x72 => some 0x0D
  | 0x74 => some 0x09
  | _ => none

/-- The pieces between the quotation marks, `none` if an escape is malformed. -/
def pieces : Bytes → Option (List Piece)
  | [] => some []
  | b :: rest =>
    if b = 0x5C then
      match rest with
      | 0x75 :: a :: b :: c :: d :: rest => do
        let a ← hexValue a
        let b ← hexValue b
        let c ← hexValue c
        let d ← hexValue d
        let more ← pieces rest
        return .unit (a * 4096 + b * 256 + c * 16 + d) :: more
      | e :: rest => do
        let e ← escapeValue e
        let more ← pieces rest
        return .byte e :: more
      | [] => none
    else (pieces rest).map (.byte b :: ·)

/-- The bytes that the pieces stand for, `none` if half of a surrogate pair stands alone. -/
def pieceBytes : List Piece → Option Bytes
  | [] => some []
  | .byte b :: rest => (pieceBytes rest).map (b :: ·)
  | .unit n :: rest =>
    if 0xD800 ≤ n ∧ n < 0xDC00 then
      match rest with
      | .unit m :: rest =>
        if 0xDC00 ≤ m ∧ m < 0xE000 then
          (pieceBytes rest).map
            (Utf8.encodeChar (Char.ofNat (0x10000 + (n - 0xD800) * 0x400 + (m - 0xDC00))) ++ ·)
        else none
      | _ => none
    else if 0xDC00 ≤ n ∧ n < 0xE000 then none
    else (pieceBytes rest).map (Utf8.encodeChar (Char.ofNat n) ++ ·)

/-- The token of a string, from the bytes between its quotation marks. -/
def textToken (raw : Bytes) : Option Token := do
  let parts ← pieces raw
  return .text ((pieceBytes parts).bind Utf8.toString?)

/-! ### Numbers -/

def isDigit (b : UInt8) : Bool := 0x30 ≤ b.toNat ∧ b.toNat ≤ 0x39

/-- The number that decimal digits write. -/
def digitsValue (digits : Bytes) : Nat := digits.foldl (fun n b => n * 10 + (b.toNat - 0x30)) 0

/-- Digits without a needless leading zero. -/
def isWhole : Bytes → Bool
  | [] => false
  | [b] => isDigit b
  | b :: rest => isDigit b && b != 0x30 && rest.all isDigit

/-- The power of ten after the `e` of a number. -/
def exponentValue : Bytes → Option Int
  | 0x2B :: digits => if digits ≠ [] ∧ digits.all isDigit then some (digitsValue digits) else none
  | 0x2D :: digits => if digits ≠ [] ∧ digits.all isDigit then some (-digitsValue digits) else none
  | digits => if digits ≠ [] ∧ digits.all isDigit then some (digitsValue digits) else none

/-- The number with this sign, these digits before and after the point and this power of ten.  Only a
number without point and power counts as whole, and minus zero does not. -/
def numberValue (negative : Bool) (whole fraction : Bytes) (plain : Bool) (exponent : Int) :
    Option Json :=
  let magnitude := digitsValue (whole ++ fraction)
  let signed : Int := if negative then -magnitude else magnitude
  let exponent := exponent - fraction.length
  if plain && intFits signed && !(negative && magnitude == 0) then some (.int signed)
  else if decimalFits magnitude exponent then some (.decimal signed exponent)
  else none

/-- The token of a number, from all its bytes. -/
def numberToken (raw : Bytes) : Option Token :=
  let negative := raw.head? == some 0x2D
  let raw := if negative then raw.drop 1 else raw
  let mantissa := raw.takeWhile fun b => b != 0x65 && b != 0x45
  let power := raw.drop mantissa.length
  let whole := mantissa.takeWhile (· != 0x2E)
  let fraction := mantissa.drop whole.length
  let fractionDigits := fraction.drop 1
  if isWhole whole && (fraction.isEmpty || !fractionDigits.isEmpty && fractionDigits.all isDigit) then
    if power.isEmpty then
      some (.number (numberValue negative whole fractionDigits fraction.isEmpty 0))
    else
      (exponentValue (power.drop 1)).map fun e =>
        .number (numberValue negative whole fractionDigits false e)
  else none

/-- The token of a run of letters. -/
def wordToken (raw : Bytes) : Option Token :=
  if raw = Utf8.ofString "null" then some .null
  else if raw = Utf8.ofString "true" then some (.bool true)
  else if raw = Utf8.ofString "false" then some (.bool false)
  else none

/-! ### The sweep -/

/-- Where the sweep stands; what it has read of a word is kept last byte first. -/
inductive Scanner where
  | between
  | inText (read : Bytes) (escaped : Bool)
  | inNumber (read : Bytes)
  | inWord (read : Bytes)

namespace Scanner

def isSpace (b : UInt8) : Bool := b = 0x20 ∨ b = 0x0A ∨ b = 0x0D ∨ b = 0x09

def isLetter (b : UInt8) : Bool := 0x61 ≤ b.toNat ∧ b.toNat ≤ 0x7A

def isNumberByte (b : UInt8) : Bool :=
  isDigit b || b = 0x2B || b = 0x2D || b = 0x2E || b = 0x45 || b = 0x65

/-- A byte between words. -/
def start (b : UInt8) : Option (List Token × Scanner) :=
  if isSpace b then some ([], between)
  else if isDigit b || b = 0x2D then some ([], inNumber [b])
  else if isLetter b then some ([], inWord [b])
  else match b.toNat with
    | 0x22 => some ([], inText [] false)
    | 0x2C => some ([.comma], between)
    | 0x3A => some ([.colon], between)
    | 0x5B => some ([.openArray], between)
    | 0x5D => some ([.closeArray], between)
    | 0x7B => some ([.openObject], between)
    | 0x7D => some ([.closeObject], between)
    | _ => none

/-- A finished word, and the byte behind it. -/
def after (token : Option Token) (b : UInt8) : Option (List Token × Scanner) := do
  let token ← token
  let (more, next) ← start b
  return (token :: more, next)

/-- The tokens that one more byte completes, and where the sweep stands then. -/
def feed : Scanner → UInt8 → Option (List Token × Scanner)
  | between, b => start b
  | inText read true, b => some ([], inText (b :: read) false)
  | inText read false, b =>
    if b = 0x22 then (textToken read.reverse).map fun t => ([t], between)
    else if b.toNat < 0x20 then none
    else some ([], inText (b :: read) (b = 0x5C))
  | inNumber read, b =>
    if isNumberByte b then some ([], inNumber (b :: read)) else after (numberToken read.reverse) b
  | inWord read, b =>
    if isLetter b then some ([], inWord (b :: read)) else after (wordToken read.reverse) b

/-- The tokens that the end of the text completes. -/
def finish : Scanner → Option (List Token)
  | between => some []
  | inText _ _ => none
  | inNumber read => (numberToken read.reverse).map ([·])
  | inWord read => (wordToken read.reverse).map ([·])

/-- The tokens from here to the end of the text. -/
def tokens : Scanner → Bytes → Option (List Token)
  | s, [] => s.finish
  | s, b :: rest => do
    let (done, next) ← s.feed b
    let more ← tokens next rest
    return done ++ more

end Scanner

/-- The words of a JSON text. -/
def tokens (text : Bytes) : Option (List Token) := Scanner.between.tokens text

end Depot.Json
