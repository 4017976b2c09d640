import VolumeDriver.Text.Cut
import VolumeDriver.Text.Numeral
set_option autoImplicit false

/-! # Addresses of version four

Four numbers below 256 in decimal, with dots between them and without leading zeros (`parse?`).

Where addresses stand in place of names, they are read loosely (`parseLoose?`): numbers may be written in
octal behind a zero and in hexadecimal behind `0x`, the last one covers all octets that the others leave,
and one more dot may follow. -/

namespace VolumeDriver

/-- An address of version four. -/
structure Ipv4 where
  a : UInt8
  b : UInt8
  c : UInt8
  d : UInt8
  deriving DecidableEq, Repr

namespace Ipv4

/-- The `Ipv4` address in dotted decimal. -/
def toChars (ip : Ipv4) : List Char :=
  ['.'].intercalate ([ip.a, ip.b, ip.c, ip.d].map fun n => Numeral.decimal n.toNat)

/-- One of the four numbers: at most three digits, the first not a zero unless it is the only one. -/
def octet? (s : List Char) : Option UInt8 :=
  if 3 < s.length ∨ (s.head? = some '0' ∧ s.length ≠ 1) then none
  else
    match Numeral.value? s with
    | some n => if n < 256 then some (UInt8.ofNat n) else none
    | none => none

/-- The `Ipv4` address that the text spells: four numbers, each an `octet?`, with dots between them. -/
def parse? (s : List Char) : Option Ipv4 :=
  match Cut.splitAll '.' s with
  | [a, b, c, d] => return ⟨← octet? a, ← octet? b, ← octet? c, ← octet? d⟩
  | _ => none

/-! ## Loosely written addresses -/

/-- The address of a number below 2³². -/
def ofNat (n : Nat) : Ipv4 :=
  ⟨UInt8.ofNat (n / 0x1000000), UInt8.ofNat (n / 0x10000), UInt8.ofNat (n / 0x100), UInt8.ofNat n⟩

/-- A number in one of the three bases. -/
def number? (s : List Char) : Option Nat :=
  match s with
  | [] => none
  | '0' :: 'x' :: digits | '0' :: 'X' :: digits => Numeral.valueIn? 16 digits
  | '0' :: digits => Numeral.valueIn? 8 digits
  | _ => Numeral.valueIn? 10 s

/-- The parts of a text between its dots, without an empty one at the end. -/
def parts (s : List Char) : List (List Char) :=
  let parts := Cut.splitAll '.' s
  if parts.getLast? = some [] then parts.dropLast else parts

/-- Whether the last part of a text is a number, so that the text can only be an address. -/
def endsInNumber (s : List Char) : Bool :=
  (parts s).getLast?.any fun part =>
    (!part.isEmpty && part.all Char.isDigit) || (number? part).isSome

/-- The address that numbers spell: one octet each, and the last number all octets that there is room
    for. -/
def ofNumbers? : (room : Nat) → List Nat → Option Nat
  | _, [] | 0, _ => none
  | room + 1, [n] => if n < Nat.pow 256 (room + 1) then some n else none
  | room + 1, n :: m :: rest => do
    let low ← ofNumbers? room (m :: rest)
    if n < 256 then some (n * Nat.pow 256 room + low) else none

/-- The `Ipv4` address that the text spells loosely, in parts that are each a `number?`. -/
def parseLoose? (s : List Char) : Option Ipv4 := do
  return ofNat (← ofNumbers? 4 (← (parts s).mapM number?))

end Ipv4

end VolumeDriver
