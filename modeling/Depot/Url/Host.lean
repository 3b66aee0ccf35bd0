import Depot.Url.DomainName
import Depot.Url.Error

/-!
# Hosts

A host is given by a name or by a number.  The number has 32 bits, written in up to four parts between
dots, or 128 bits, written in brackets as eight groups between colons of which one run of zeros may be left
out.

* `Host.read` reads the host of a well-known scheme.  A name whose last label is a number has to be an
  address as a whole.
* `Host.readPlain` reads any other host, where a name is just a text.
* `Host.write` gives the one form in which a host is written.
-/

namespace Depot

/-- Where an address leads.  The empty name stands for no host in particular. -/
inductive Host where
  | name (text : List Char)
  | ipv4 (address : Nat)
  | ipv6 (groups : List Nat)
  deriving DecidableEq

/-! ### Addresses of 32 bits -/

namespace Ipv4

/-- One part of an address: octal behind a zero, hexadecimal behind a zero and an x, or decimal. -/
def part? (text : List Char) : Option Nat :=
  match text with
  | ['0', 'x'] => some 0
  | ['0', 'X'] => some 0
  | '0' :: 'x' :: digits => numeral? 16 digits
  | '0' :: 'X' :: digits => numeral? 16 digits
  | '0' :: d :: digits => numeral? 8 (d :: digits)
  | digits => numeral? 10 digits

/-- The labels of a name, where one dot at the end does not count. -/
def labels (name : List Char) : List (List Char) :=
  let all := pieces (· = '.') name
  if all.getLast? = some [] then all.dropLast else all

/-- The last label of the name is a number, so the name can only be an address. -/
def endsInNumber (name : List Char) : Bool :=
  match (labels name).getLast? with
  | some label => (!label.isEmpty && label.all Char.isDigit) || (part? label).isSome
  | none => false

/-- The address with these parts, of which the last one fills all that the others leave. -/
def ofParts : List Nat → Option Nat
  | [] => none
  | parts@(_ :: _) =>
    let last := parts.getLastD 0
    let leading := parts.dropLast
    if leading.length < 4 && leading.all (· < 256) && decide (last < Nat.pow 256 (4 - leading.length)) then
      some (leading.foldl (fun n p => n * 256 + p) 0 * Nat.pow 256 (4 - leading.length) + last)
    else none

/-- The address that a name is. -/
def read? (name : List Char) : Option Nat := do
  let parts ← (labels name).mapM part?
  ofParts parts

/-- The four decimal parts of an address. -/
def write (address : Nat) : List Char :=
  ['.'].intercalate ([address / 0x1000000, address / 0x10000, address / 0x100, address].map fun n =>
    Nat.toDigits 10 (n % 256))

end Ipv4

/-! ### Addresses of 128 bits -/

namespace Ipv6

/-- One group: up to four hexadecimal digits. -/
def group? (text : List Char) : Option Nat :=
  if text.length ≤ 4 then numeral? 16 text else none

/-- A decimal number below 256 without leading zeros. -/
def byte? (text : List Char) : Option Nat :=
  match text with
  | '0' :: _ :: _ => none
  | _ => (numeral? 10 text).bind fun n => if n < 256 then some n else none

/-- The two groups that four decimal parts between dots write. -/
def dotted? (text : List Char) : Option (List Nat) :=
  match (pieces (· = '.') text).mapM byte? with
  | some [a, b, c, d] => some [a * 256 + b, c * 256 + d]
  | _ => none

/-- The groups that some texts write; the last of them may be the dotted form. -/
def groups? : List (List Char) → Option (List Nat)
  | [] => some []
  | [last] => if last.contains '.' then dotted? last else (group? last).map ([·])
  | text :: rest => do
    let group ← group? text
    let groups ← groups? rest
    some (group :: groups)

/-- What stands before and behind the first two colons in a row. -/
def gap? : List Char → Option (List Char × List Char)
  | ':' :: ':' :: back => some ([], back)
  | c :: rest => (gap? rest).map fun (front, back) => (c :: front, back)
  | [] => none

/-- The groups of one side of a gap, which may have none. -/
def side? (text : List Char) : Option (List Nat) :=
  if text.isEmpty then some [] else groups? (pieces (· = ':') text)

/-- The eight groups of what is written between the brackets. -/
def read? (text : List Char) : Option (List Nat) :=
  match gap? text with
  | some (front, back) => do
    let front ← (if front.contains '.' then none else side? front)
    let back ← side? back
    if front.length + back.length < 8 then
      some (front ++ List.replicate (8 - front.length - back.length) 0 ++ back)
    else none
  | none => do
    let groups ← side? text
    if groups.length = 8 then some groups else none

/-- The length of the run of zeros at the beginning. -/
def zeros (groups : List Nat) : Nat := (groups.takeWhile (· = 0)).length

/-- Where the first of the longest runs of zeros starts, and how long it is. -/
def longestRun : List Nat → Nat × Nat
  | [] => (0, 0)
  | g :: rest =>
    let (start, length) := longestRun rest
    if length ≤ zeros (g :: rest) then (0, zeros (g :: rest)) else (start + 1, length)

/-- Groups between colons. -/
def writeGroups (groups : List Nat) : List Char := [':'].intercalate (groups.map (Nat.toDigits 16))

/-- What is written between the brackets: the longest run of at least two zeros is left out. -/
def write (groups : List Nat) : List Char :=
  let (start, length) := longestRun groups
  if length < 2 then writeGroups groups
  else writeGroups (groups.take start) ++ "::".toList ++ writeGroups (groups.drop (start + length))

end Ipv6

namespace Host

/-- The address between brackets. -/
def readBracketed (text : List Char) : Except UrlError Host :=
  if text.getLast? = some ']' then
    match Ipv6.read? (text.drop 1).dropLast with
    | some groups => .ok (.ipv6 groups)
    | none => .error .ipv6
  else .error .ipv6

/-- The host of a well-known scheme. -/
def read (text : List Char) : Except UrlError Host :=
  if text.head? = some '[' then readBracketed text
  else
    match DomainName.ofPart text with
    | none => .error .domainName
    | some [] => .error .emptyHost
    | some domain =>
      if Ipv4.endsInNumber domain then
        match Ipv4.read? domain with
        | some address => .ok (.ipv4 address)
        | none => .error .ipv4
      else .ok (.name domain)

/-- Characters that cannot be part of a host of any scheme. -/
def isForbidden (c : Char) : Bool := "\x00\t\n\r #/:<>?@[\\]^|".toList.contains c

/-- The host of any other scheme. -/
def readPlain (text : List Char) : Except UrlError Host :=
  if text.head? = some '[' then readBracketed text
  else if text.any isForbidden then .error .hostCharacter
  else .ok (.name (Percent.encode Percent.leastSet text))

/-- The host as it is written. -/
def write : Host → List Char
  | name text => text
  | ipv4 address => Ipv4.write address
  | ipv6 groups => '[' :: Ipv6.write groups ++ [']']

end Host

end Depot
