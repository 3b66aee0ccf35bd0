/-!
# Names of other scripts in ASCII

A text over all characters is written with letters, digits and hyphens alone: first the ASCII characters in
their order, then, behind a hyphen, where the others have to be put in.  Those are taken in ascending order
of their numbers.  Each insertion is one number: how many places and characters there were to skip since the
last one, in digits of base 36 that start with the least one and whose thresholds follow a bias.

`encode` writes, `decode` reads; neither knows what a domain name is.
-/

namespace Depot.Punycode

/-- The digits: the letters, then the decimal digits. -/
def digit (n : Nat) : Char := if n < 26 then Char.ofNat (97 + n) else Char.ofNat (22 + n)

/-- The value of a digit; capitals count as small letters. -/
def digitValue (c : Char) : Option Nat :=
  if c.isLower then some (c.toNat - 97)
  else if c.isUpper then some (c.toNat - 65)
  else if c.isDigit then some (c.toNat - 22)
  else none

/-- The first digit below its threshold ends a number.  The threshold of the digit at this position. -/
def threshold (bias position : Nat) : Nat := min 26 (max 1 (36 * (position + 1) - bias))

theorem threshold_pos (bias position : Nat) : 1 ≤ threshold bias position := by
  unfold threshold; omega

/-- How often a number is divided until it is small, and what is left of it. -/
def shrink (n : Nat) : Nat × Nat :=
  if n ≤ 455 then (0, n) else ((shrink (n / 35)).1 + 1, (shrink (n / 35)).2)
termination_by n
decreasing_by all_goals exact Nat.div_lt_self (by omega) (by omega)

/-- The bias after an insertion by this number into a text which then has this length. -/
def adapt (isFirst : Bool) (n length : Nat) : Nat :=
  let n := if isFirst then n / 700 else n / 2
  let (divisions, rest) := shrink (n + n / length)
  36 * divisions + 36 * rest / (rest + 38)

/-- What an insertion leaves: the bias, the skips that have gathered, and how long the text is by now. -/
structure State where
  bias : Nat
  skipped : Nat
  length : Nat
  isFirst : Bool

/-! ### Writing -/

/-- The digits of a number, from this position on. -/
def digits (bias position n : Nat) : List Char :=
  let t := threshold bias position
  if n < t then [digit n]
  else digit (t + (n - t) % (36 - t)) :: digits bias (position + 1) ((n - t) / (36 - t))
termination_by n
decreasing_by
  have := threshold_pos bias position
  exact Nat.lt_of_le_of_lt (Nat.div_le_self _ _) (by omega)

/-- Goes through the text to put in the characters with one number: a smaller one is skipped, each of
these is written. -/
def place (number : Nat) : State → List Char → List Char × State
  | s, [] => ([], s)
  | s, c :: rest =>
    if c.toNat < number then place number { s with skipped := s.skipped + 1 } rest
    else if c.toNat = number then
      let s' := ⟨adapt s.isFirst s.skipped (s.length + 1), 0, s.length + 1, false⟩
      let (written, s'') := place number s' rest
      (digits s.bias 0 s.skipped ++ written, s'')
    else place number s rest

/-- Puts in the characters with these numbers, which ascend; all below the third argument are in place. -/
def placeAll (text : List Char) : State → Nat → List Nat → List Char
  | _, _, [] => []
  | s, next, number :: numbers =>
    let (written, s') :=
      place number { s with skipped := s.skipped + (number - next) * (s.length + 1) } text
    written ++ placeAll text { s' with skipped := s'.skipped + 1 } (number + 1) numbers

/-- The character belongs to ASCII. -/
def isBasic (c : Char) : Bool := c.toNat < 128

/-- The numbers of the characters outside ASCII, ascending, each once. -/
def numbers (text : List Char) : List Nat :=
  (((text.filter (!isBasic ·)).map Char.toNat).mergeSort (· ≤ ·)).eraseReps

/-- A text in ASCII. -/
def encode (text : List Char) : List Char :=
  let basic := text.filter isBasic
  (if basic.isEmpty then [] else basic ++ ['-'])
    ++ placeAll text ⟨72, 0, basic.length, true⟩ 128 (numbers text)

/-! ### Reading -/

/-- Where the reading of a number stands: its position, the weight of its digits, and what has come together. -/
structure Partial where
  position : Nat
  weight : Nat
  value : Nat

/-- Reads insertions into a text.  The number of the last character that was put in and the place behind it
come first. -/
def insertAll : Nat → Nat → State → Partial → List Char → List Char → Option (List Char)
  | _, _, _, p, text, [] => if p.position = 0 then some text else none
  | number, spot, s, p, text, c :: rest => do
    let d ← digitValue c
    let value := p.value + d * p.weight
    if d < threshold s.bias p.position then
      let spot := spot + value
      let number := number + spot / (s.length + 1)
      let spot := spot % (s.length + 1)
      if number.isValidChar then
        insertAll number (spot + 1) ⟨adapt s.isFirst value (s.length + 1), 0, s.length + 1, false⟩
          ⟨0, 1, 0⟩ (text.insertIdx spot (Char.ofNat number)) rest
      else none
    else
      insertAll number spot s
        ⟨p.position + 1, p.weight * (36 - threshold s.bias p.position), value⟩ text rest

/-- The text of which this is the written form. -/
def decode (written : List Char) : Option (List Char) :=
  let insertions := (written.reverse.takeWhile (· ≠ '-')).reverse
  let basic := written.take (written.length - insertions.length - 1)
  if basic.all isBasic then
    insertAll 128 0 ⟨72, 0, basic.length, true⟩ ⟨0, 1, 0⟩ basic insertions
  else none

end Depot.Punycode
