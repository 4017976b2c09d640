import VolumeDriver.Text.Ipv4
set_option autoImplicit false

/-! # Addresses of version six

Eight groups of sixteen bits in hexadecimal, with colons between them. Two colons stand for groups of
zeros, once in an address, and the last two groups may be written as an address of version four. There
is one way to write an address (`toChars`): in small letters, with two colons for the longest run of
zeros. -/

namespace VolumeDriver

/-- An address of version six. -/
structure Ipv6 where
  groups : List UInt16
  length_groups : groups.length = 8
  deriving DecidableEq, Repr

namespace Ipv6

/-! ## Reading -/

/-- One group: at most four digits. -/
def group? (s : List Char) : Option UInt16 :=
  if s.isEmpty || 4 < s.length then none else (Numeral.valueIn? 16 s).map UInt16.ofNat

/-- An address of version four as groups. -/
def ofIpv4 (ip : Ipv4) : List UInt16 :=
  [256 * ip.a.toUInt16 + ip.b.toUInt16, 256 * ip.c.toUInt16 + ip.d.toUInt16]

/-- The parts of a text between its colons; none if it is empty. -/
def parts (s : List Char) : List (List Char) :=
  if s.isEmpty then [] else Cut.splitAll ':' s

/-- Groups, of which the last two may be an address of version four. -/
def lastGroups? : List (List Char) → Option (List UInt16)
  | [] => some []
  | [last] => (Ipv4.parse? last).map ofIpv4 <|> (group? last).map fun g => [g]
  | part :: rest => return (← group? part) :: (← lastGroups? rest)

/-- The groups that a text spells. -/
def groups? (s : List Char) : Option (List UInt16) :=
  match Cut.splitFirst? [':', ':'] s with
  | none => lastGroups? (parts s)
  | some (before, after) => do
    let before ← (parts before).mapM group?
    let after ← lastGroups? (parts after)
    if before.length + after.length < 8 then
      some (before ++ List.replicate (8 - (before.length + after.length)) 0 ++ after)
    else none

/-- The `Ipv6` address that the text spells. -/
def parse? (s : List Char) : Option Ipv6 := do
  let groups ← groups? s
  if h : groups.length = 8 then some ⟨groups, h⟩ else none

/-! ## Writing -/

/-- Where the longest run of zeros begins, and its length; the first of several that are as long. -/
def longestZeros : List UInt16 → Nat × Nat
  | [] => (0, 0)
  | g :: rest =>
    let zeros := ((g :: rest).takeWhile (· = 0)).length
    let (start, length) := longestZeros rest
    if length ≤ zeros then (0, zeros) else (start + 1, length)

/-- Groups with colons between them. -/
def joined (groups : List UInt16) : List Char :=
  [':'].intercalate (groups.map fun g => Numeral.hex g.toNat)

/-- The `Ipv6` address as text. -/
def toChars (ip : Ipv6) : List Char :=
  let (start, length) := longestZeros ip.groups
  if length < 2 then joined ip.groups
  else joined (ip.groups.take start) ++ [':', ':'] ++ joined (ip.groups.drop (start + length))

/-! ## Kinds of addresses -/

/-- Whether an address is that of a group of machines. -/
def isMulticast (ip : Ipv6) : Bool :=
  ip.groups.head?.any (0xFF00 ≤ ·)

/-- Whether an address is one on a link only. -/
def isLinkLocal (ip : Ipv6) : Bool :=
  ip.groups.head?.any fun g => 0xFE80 ≤ g && g < 0xFEC0

/-- Whether an address is one of version four in the form of version six. -/
def isIpv4 (ip : Ipv6) : Bool :=
  ip.groups.take 6 = [0, 0, 0, 0, 0, 0xFFFF]

end Ipv6

end VolumeDriver
