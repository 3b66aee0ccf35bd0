/-!
# Text as bytes

Everything that is sent, stored or read is a list of bytes; what people read is a list of characters.
The form between the two is UTF-8 in its strict reading: the shortest form only, no half of a surrogate
pair, nothing above U+10FFFF.

* `encode`: the bytes of a text;
* `decode`: the text of some bytes, `none` where the bytes are the form of no text.

Both go character by character, so a text that is followed by anything is read up to there and the rest
is read on its own.
-/

namespace Depot

/-- Raw bytes, in the order in which they are sent, stored and read. -/
abbrev Bytes := List UInt8

namespace Utf8

/-! ### Writing -/

/-- The byte with this number. -/
def byte (n : Nat) : UInt8 := UInt8.ofNat n

/-- The one to four bytes of a character. -/
def encodeChar (c : Char) : Bytes :=
  if c.toNat < 0x80 then [byte c.toNat]
  else if c.toNat < 0x800 then [byte (0xC0 + c.toNat / 64), byte (0x80 + c.toNat % 64)]
  else if c.toNat < 0x10000 then
    [byte (0xE0 + c.toNat / 4096), byte (0x80 + c.toNat / 64 % 64), byte (0x80 + c.toNat % 64)]
  else
    [byte (0xF0 + c.toNat / 262144), byte (0x80 + c.toNat / 4096 % 64),
      byte (0x80 + c.toNat / 64 % 64), byte (0x80 + c.toNat % 64)]

/-- The bytes of a text. -/
def encode (text : List Char) : Bytes := text.flatMap encodeChar

/-- The bytes of a string. -/
def ofString (s : String) : Bytes := encode s.toList

/-! ### Reading -/

/-- The character with this number, if it is not less than `least` and a character at all. -/
def scalar (least n : Nat) : Option Char :=
  if h : n.isValidChar then
    if least ≤ n then some (Char.ofNatAux n h) else none
  else none

/-- The six payload bits of a byte that continues a character. -/
def tail (b : UInt8) : Option Nat :=
  if 0x80 ≤ b.toNat ∧ b.toNat < 0xC0 then some (b.toNat - 0x80) else none

/-- The character that two bytes make up. -/
def pair (a b : UInt8) : Option Char := do
  let b ← tail b
  scalar 0x80 ((a.toNat - 0xC0) * 64 + b)

/-- The character that three bytes make up. -/
def triple (a b c : UInt8) : Option Char := do
  let b ← tail b
  let c ← tail c
  scalar 0x800 ((a.toNat - 0xE0) * 4096 + b * 64 + c)

/-- The character that four bytes make up. -/
def quadruple (a b c d : UInt8) : Option Char := do
  let b ← tail b
  let c ← tail c
  let d ← tail d
  scalar 0x10000 ((a.toNat - 0xF0) * 262144 + b * 4096 + c * 64 + d)

/-- The text with these bytes, if there is one. -/
def decode : Bytes → Option (List Char)
  | [] => some []
  | a :: rest =>
    if a.toNat < 0x80 then (decode rest).map (Char.ofNat a.toNat :: ·)
    else if a.toNat < 0xC0 then none
    else if a.toNat < 0xE0 then
      match rest with
      | b :: rest => (pair a b).bind fun c => (decode rest).map (c :: ·)
      | _ => none
    else if a.toNat < 0xF0 then
      match rest with
      | b :: c :: rest => (triple a b c).bind fun c => (decode rest).map (c :: ·)
      | _ => none
    else if a.toNat < 0xF8 then
      match rest with
      | b :: c :: d :: rest => (quadruple a b c d).bind fun c => (decode rest).map (c :: ·)
      | _ => none
    else none

/-- The string with these bytes, if there is one. -/
def toString? (bytes : Bytes) : Option String := (decode bytes).map String.ofList

end Utf8

end Depot
