set_option autoImplicit false

/-! # Tagged values

Certificates are made of values with a tag and a length in front; the content of some is values again.
`Der.element?` reads a value off the front, and `Der.only?` reads values that are all there is. A length
is written in the one shortest way. Values of 65535 octets or more and tags of more than one octet are
not read. -/

namespace VolumeDriver.Http.Der

/-- A value: its tag and its content. -/
structure Element where
  tag : UInt8
  content : List UInt8
  deriving DecidableEq, Repr

/-! ## Tags -/

/-- The tag of truth values. -/
def boolean : UInt8 := 0x01

/-- The tag of whole numbers. -/
def integer : UInt8 := 0x02

/-- The tag of strings of bits. -/
def bitString : UInt8 := 0x03

/-- The tag of strings of octets. -/
def octetString : UInt8 := 0x04

/-- The tag of identifiers of objects. -/
def objectIdentifier : UInt8 := 0x06

/-- The tag of sequences. -/
def sequence : UInt8 := 0x30

/-- The tag of a value that its place alone explains. -/
def explained (place : UInt8) : UInt8 := 0xA0 + place

/-! ## Reading -/

/-- The number of octets that a value may not reach. -/
def tooLong : Nat := 0xFFFF

/-- A length, and what follows it. -/
def length? : List UInt8 → Option (Nat × List UInt8)
  | [] => none
  | b :: rest =>
    if b < 0x80 then some (b.toNat, rest)
    else
      match b, rest with
      | 0x81, high :: rest => if high < 0x80 then none else some (high.toNat, rest)
      | 0x82, high :: low :: rest =>
        if high = 0 then none else some (256 * high.toNat + low.toNat, rest)
      | _, _ => none

/-- The value at the front, and what follows it. -/
def element? : List UInt8 → Option (Element × List UInt8)
  | [] => none
  | tag :: rest =>
    if tag % 0x20 = 0x1F then none
    else
      match length? rest with
      | none => none
      | some (length, rest) =>
        if length < tooLong ∧ length ≤ rest.length then
          some (⟨tag, rest.take length⟩, rest.drop length)
        else none

/-- The content of the value at the front, which has to have a tag, and what follows it. -/
def expect? (tag : UInt8) (s : List UInt8) : Option (List UInt8 × List UInt8) :=
  match element? s with
  | some (e, rest) => if e.tag = tag then some (e.content, rest) else none
  | none => none

/-- The contents of values with some tags that are all there is. -/
def only? : (tags : List UInt8) → List UInt8 → Option (List (List UInt8))
  | [], [] => some []
  | [], _ :: _ => none
  | tag :: tags, s => do
    let (content, rest) ← expect? tag s
    return content :: (← only? tags rest)

/-- The contents of the values there are, which all have to have one tag; of at most `fuel` values. -/
def each? (tag : UInt8) (fuel : Nat) (s : List UInt8) : Option (List (List UInt8)) :=
  match fuel, s with
  | _, [] => some []
  | 0, _ :: _ => none
  | fuel + 1, s => do
    let (content, rest) ← expect? tag s
    return content :: (← each? tag fuel rest)

/-- The contents of the values there are, which all have to have one tag. -/
def all? (tag : UInt8) (s : List UInt8) : Option (List (List UInt8)) :=
  each? tag s.length s

end VolumeDriver.Http.Der
