set_option autoImplicit false

/-! # Base64

Three octets are written as four symbols of the standard alphabet; one or two octets left over are
filled up to four symbols with `=`. Reading accepts exactly what writing produces: padding is
required and the bits that a last symbol does not use must be zero. Readers that do without padding use
`decodeLoose?`.

Both sides are octets: the text is ASCII when written, and its faults count octets when read. -/

namespace VolumeDriver.Base64

/-! ## Symbols -/

/-- The octet of `=`, which fills the last four symbols up. -/
def pad : UInt8 := 0x3D

/-- The symbol of a value below 64. -/
def symbol (v : Nat) : UInt8 :=
  if v < 26 then (0x41 + v).toUInt8
  else if v < 52 then (0x61 + (v - 26)).toUInt8
  else if v < 62 then (0x30 + (v - 52)).toUInt8
  else if v = 62 then 0x2B
  else 0x2F

/-- The value of a `symbol`. -/
def value? (b : UInt8) : Option Nat :=
  if 0x41 ≤ b ∧ b ≤ 0x5A then some (b.toNat - 0x41)
  else if 0x61 ≤ b ∧ b ≤ 0x7A then some (b.toNat - 0x61 + 26)
  else if 0x30 ≤ b ∧ b ≤ 0x39 then some (b.toNat - 0x30 + 52)
  else if b = 0x2B then some 62
  else if b = 0x2F then some 63
  else none

/-! ## Writing -/

/-- The symbols of some octets; `decode` reads them back. -/
def encode : List UInt8 → List UInt8
  | [] => []
  | [a] => [symbol (a.toNat / 4), symbol (a.toNat % 4 * 16), pad, pad]
  | [a, b] =>
    [symbol (a.toNat / 4), symbol (a.toNat % 4 * 16 + b.toNat / 16), symbol (b.toNat % 16 * 4), pad]
  | a :: b :: c :: rest =>
    symbol (a.toNat / 4) :: symbol (a.toNat % 4 * 16 + b.toNat / 16) ::
      symbol (b.toNat % 16 * 4 + c.toNat / 64) :: symbol (c.toNat % 64) :: encode rest

/-! ## Reading -/

/-- Why some text is not base64. -/
inductive Fault
  /-- the octet at `offset` may not stand there -/
  | invalidByte (offset : Nat) (byte : UInt8)
  /-- one symbol is left over, which is too few for an octet -/
  | invalidLength
  /-- the last symbol uses bits that belong to no octet -/
  | invalidLastSymbol (offset : Nat) (byte : UInt8)
  /-- the last four symbols are not filled up -/
  | invalidPadding
  deriving DecidableEq, Repr

/-- The fault in words. -/
def Fault.message : Fault → String
  | .invalidByte offset byte => s!"Invalid byte {byte.toNat}, offset {offset}."
  | .invalidLength => "Encoded text cannot have a 6-bit remainder."
  | .invalidLastSymbol offset byte => s!"Invalid last symbol {byte.toNat}, offset {offset}."
  | .invalidPadding => "Invalid padding"

/-- The value of the symbol at `offset`. -/
def valueAt (offset : Nat) (b : UInt8) : Except Fault Nat :=
  match value? b with
  | some v => .ok v
  | none => .error (.invalidByte offset b)

/-- The octets of symbols that begin at `offset`, a multiple of four. Padding ends the text, so the
    first `=` is at fault when anything but the end follows it. -/
def decodeFrom (offset : Nat) : List UInt8 → Except Fault (List UInt8)
  | [] => .ok []
  | [a] => do
    let _ ← valueAt offset a
    throw .invalidLength
  | [a, b] => do
    let _ ← valueAt offset a
    let _ ← valueAt (offset + 1) b
    throw .invalidPadding
  | [a, b, c] => do
    let _ ← valueAt offset a
    let _ ← valueAt (offset + 1) b
    if c = pad then throw .invalidPadding
    let _ ← valueAt (offset + 2) c
    throw .invalidPadding
  | a :: b :: c :: d :: rest => do
    let va ← valueAt offset a
    let vb ← valueAt (offset + 1) b
    if c = pad then
      if d = pad ∧ rest = [] then
        if vb % 16 = 0 then return [(va * 4 + vb / 16).toUInt8]
        else throw (.invalidLastSymbol (offset + 1) b)
      else throw (.invalidByte (offset + 2) c)
    else
      let vc ← valueAt (offset + 2) c
      if d = pad then
        if rest = [] then
          if vc % 4 = 0 then
            return [(va * 4 + vb / 16).toUInt8, (vb % 16 * 16 + vc / 4).toUInt8]
          else throw (.invalidLastSymbol (offset + 2) c)
        else throw (.invalidByte (offset + 3) d)
      else
        let vd ← valueAt (offset + 3) d
        let octets ← decodeFrom (offset + 4) rest
        return (va * 4 + vb / 16).toUInt8 :: (vb % 16 * 16 + vc / 4).toUInt8 ::
          (vc % 4 * 64 + vd).toUInt8 :: octets

/-- The octets that some text stands for. A text with one symbol too many is refused for its length
    before its symbols are looked at, unless its last octet could not stand anywhere. -/
def decode (s : List UInt8) : Except Fault (List UInt8) :=
  if s.length % 4 = 1 then
    match s.getLast? with
    | some b =>
      if b ≠ pad ∧ value? b = none then .error (.invalidByte (s.length - 1) b)
      else .error .invalidLength
    | none => .error .invalidLength
  else decodeFrom 0 s

/-- The octets that some text stands for, of which the last symbols need not be filled up. What is there
    of padding may not go beyond what belongs there. -/
def decodeLoose? (s : List UInt8) : Option (List UInt8) :=
  let symbols := (s.reverse.dropWhile (· = pad)).reverse
  let filled := s.length - symbols.length
  let missing := (4 - symbols.length % 4) % 4
  if missing < filled then none
  else (decode (symbols ++ List.replicate missing pad)).toOption

end VolumeDriver.Base64
