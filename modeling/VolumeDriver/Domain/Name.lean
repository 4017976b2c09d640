import VolumeDriver.Domain.Direction
import VolumeDriver.Domain.Joiner
import VolumeDriver.Domain.Mapping
import VolumeDriver.Domain.Punycode
import VolumeDriver.Text.Utf8
set_option autoImplicit false

/-! # Domain names

A domain name in any script has a form in ASCII, in which it is looked up: each label with other
characters is written in letters, digits and dashes behind `xn--`. `Domain.toAscii?` gives that form of a
name; labels that are already in it are checked as if they were not. There is no form of a name that
has characters or orders of characters that are not allowed. Labels may be empty and have any length,
but only so long a label is coded. -/

namespace VolumeDriver.Domain

/-- What coded labels begin with. -/
def codedPrefix : List Nat := "xn--".toList.map Char.toNat

/-- The greatest length of the code of a label that is read. -/
def longestCode : Nat := 2000

/-- The greatest length of a label that is written in code. -/
def longestCoded : Nat := 1000

/-- Whether a character is of ASCII. -/
def isAscii (n : Nat) : Bool :=
  n < Punycode.firstCoded

/-- Whether a label with characters beyond ASCII is as it should be. -/
def isLabel (label : List Nat) : Bool :=
  !codedPrefix.isPrefixOf label && !(label.head?.any Mark.isMark) && Joiner.allowed label

/-- What the code of a label stands for. Only what would be written so may be coded. -/
def decodeLabel? (code : List Nat) : Option (List Nat) :=
  if longestCode < code.length ∨ !code.all isAscii then none
  else
    (Punycode.decode? (code.map Char.ofNat)).filter fun label =>
      label.any (fun n => !isAscii n) && isMapped label && isLabel label

/-- A label in any script. -/
def readLabel? (label : List Nat) : Option (List Nat) :=
  if codedPrefix.isPrefixOf label then decodeLabel? (label.drop codedPrefix.length)
  else if label.all isAscii || isLabel label then some label
  else none

/-- A label in ASCII. -/
def writeLabel? (label : List Nat) : Option (List Char) :=
  if label.all isAscii then some (label.map Char.ofNat)
  else if longestCoded < label.length then none
  else some ("xn--".toList ++ Punycode.encode label)

/-- The labels of a name in code points. -/
def labelsOf (name : List Nat) : List (List Nat) :=
  (Cut.splitAll '.' (name.map Char.ofNat)).map fun label => label.map Char.toNat

/-- A name in ASCII, label by label with `readLabel?` and `writeLabel?`. -/
def toAscii? (name : List Char) : Option (List Char) := do
  let labels ← (labelsOf (← mapText? (name.map Char.toNat))).mapM readLabel?
  if Direction.keepsName labels then return ['.'].intercalate (← labels.mapM writeLabel?) else none

end VolumeDriver.Domain
