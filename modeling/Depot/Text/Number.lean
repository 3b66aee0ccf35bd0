/-!
# Whole numbers in text

A number is written in decimal digits, with a plus sign in front if one likes.  A number has to be below a
limit, so it may be too large; that is found digit by digit, and the first digit at which something is wrong
decides what is reported.  A number that may have a minus sign in front may also be too small.
-/

namespace Depot

/-- Numbers of 64 bits are below this. -/
def limit64 : Nat := 0x10000000000000000

/-- Numbers of 64 bits of which one is the sign are below this. -/
def limit63 : Nat := 0x8000000000000000

/-- Numbers of 32 bits are below this. -/
def limit32 : Nat := 0x100000000

/-- Why a text is no number of the kind that is wanted. -/
inductive NumberFault where
  | empty
  | invalidDigit
  | tooLarge
  | tooSmall
  deriving DecidableEq

def NumberFault.message : NumberFault → String
  | empty => "cannot parse integer from empty string"
  | invalidDigit => "invalid digit found in string"
  | tooLarge => "number too large to fit in target type"
  | tooSmall => "number too small to fit in target type"

/-- The number that some digits write behind `n`. -/
def readDigits (limit : Nat) : Nat → List Char → Except NumberFault Nat
  | n, [] => .ok n
  | n, c :: rest =>
    if c.isDigit then
      let n := n * 10 + (c.toNat - '0'.toNat)
      if n < limit then readDigits limit n rest else .error .tooLarge
    else .error .invalidDigit

/-- The number that a text writes, if it is below the limit. -/
def readNatural (limit : Nat) (text : String) : Except NumberFault Nat :=
  match text.toList with
  | [] => .error .empty
  | ['+'] => .error .invalidDigit
  | '+' :: digits => readDigits limit 0 digits
  | digits => readDigits limit 0 digits

/-- The whole number that a text writes, if it fits into 64 bits of which one is the sign. -/
def readInteger (text : String) : Except NumberFault Int :=
  match text.toList with
  | ['-'] => .error .invalidDigit
  | '-' :: digits =>
    match readDigits (limit63 + 1) 0 digits with
    | .ok n => .ok (-n)
    | .error .tooLarge => .error .tooSmall
    | .error e => .error e
  | _ => (readNatural limit63 text).map Int.ofNat

end Depot
