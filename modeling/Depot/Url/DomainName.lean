import Depot.Text.Lowercase
import Depot.Text.Printable
import Depot.Text.Split
import Depot.Url.Percent
import Depot.Url.Punycode

/-!
# Domain names

A domain name is compared and sent in ASCII.  Its characters are first brought to one form each: small
letters, the narrow form of wide ones, nothing for those that show nothing, a full stop for the stops of
other scripts.  A label that then holds a character outside ASCII is written by `Punycode` behind `xn--`; a
label that is given in this form has to stand for exactly such a label.

The characters with a meaning in an address, the controls and the space cannot be part of a name.
-/

namespace Depot.DomainName

/-- Characters that show nothing and do not count. -/
def isIgnored (c : Char) : Bool :=
  inRuns [(0xAD, 0xAD), (0x34F, 0x34F), (0x180B, 0x180D), (0x180F, 0x180F), (0x200B, 0x200B),
    (0x2060, 0x2060), (0x2064, 0x2064), (0xFE00, 0xFE0F), (0xFEFF, 0xFEFF)] c.toNat

/-- Stops of other scripts. -/
def isStop (c : Char) : Bool := ['\u3002', '\uFF0E', '\uFF61'].contains c

/-- The wide forms of the characters of ASCII. -/
def isWide (c : Char) : Bool := 0xFF01 ≤ c.toNat ∧ c.toNat ≤ 0xFF5E

/-- The form in which a character is part of a name. -/
def mapChar (c : Char) : List Char :=
  if isIgnored c then []
  else if isStop c then ['.']
  else if isWide c then lowerChar (Char.ofNat (c.toNat - 0xFEE0))
  else lowerChar c

/-- Characters that cannot be part of a name. -/
def isForbidden (c : Char) : Bool :=
  c.toNat ≤ 0x20 || c.toNat = 0x7F || "%#/:<>?@[\\]^|".toList.contains c

/-- A character that can be part of a label in another script. -/
def isLabelChar (c : Char) : Bool := !isForbidden c && !inRuns invisibleRuns c.toNat

/-- The label can be written in ASCII: all of it shows, and it does not start with a mark. -/
def isLabel (label : List Char) : Bool :=
  label.all isLabelChar && !inRuns extenderRuns ((label.headD 'a').toNat)

/-- The label in ASCII. -/
def labelToAscii (label : List Char) : Option (List Char) :=
  if label.all Punycode.isBasic then
    match label with
    | 'x' :: 'n' :: '-' :: '-' :: written => do
      let name ← Punycode.decode written
      if isLabel name && !name.all Punycode.isBasic && name.flatMap mapChar = name then some label
      else none
    | _ => if label.any isForbidden then none else some label
  else if isLabel label then some ("xn--".toList ++ Punycode.encode label)
  else none

/-- The name with these characters in ASCII, if it can be one. -/
def toAscii (name : List Char) : Option (List Char) := do
  let labels ← (pieces (· = '.') (name.flatMap mapChar)).mapM labelToAscii
  some (['.'].intercalate labels)

/-- The name that a part of an address gives. -/
def ofPart (part : List Char) : Option (List Char) := do
  let name ← Utf8.decode (Percent.decode part)
  toAscii name

end Depot.DomainName
