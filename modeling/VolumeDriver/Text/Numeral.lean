set_option autoImplicit false

/-! # Numerals

Numbers are written in decimal without leading zeros (`decimal`), which is also what `toString` does
on natural numbers, or in hexadecimal with lower-case digits (`hex`). They are read from a run of
decimal digits that may begin with a plus sign and with zeros, up to a bound (`parse?`). -/

namespace VolumeDriver.Numeral

/-! ## Digits -/

/-- The value of a decimal digit. -/
def digit? (c : Char) : Option Nat :=
  if '0' ≤ c ∧ c ≤ '9' then some (c.toNat - '0'.toNat) else none

/-- The digit of a value below sixteen. -/
def digitChar (n : Nat) : Char :=
  if n < 10 then Char.ofNat ('0'.toNat + n) else Char.ofNat ('a'.toNat + (n - 10))

/-- The value of a hexadecimal digit, in either case. -/
def hexDigit? (c : Char) : Option Nat :=
  if '0' ≤ c ∧ c ≤ '9' then some (c.toNat - '0'.toNat)
  else if 'a' ≤ c ∧ c ≤ 'f' then some (c.toNat - 'a'.toNat + 10)
  else if 'A' ≤ c ∧ c ≤ 'F' then some (c.toNat - 'A'.toNat + 10)
  else none

/-! ## Writing -/

/-- The digits of a number in a base between two and sixteen, most significant first. -/
def digits (base n : Nat) : List Char :=
  if _h : n < base ∨ base < 2 then [digitChar (n % 16)]
  else digits base (n / base) ++ [digitChar (n % base)]
termination_by n
decreasing_by exact Nat.div_lt_self (by omega) (by omega)

/-- A number in decimal, with its `digits` to base ten. -/
def decimal (n : Nat) : List Char :=
  digits 10 n

/-- A number in hexadecimal, with its `digits` to base sixteen. -/
def hex (n : Nat) : List Char :=
  digits 16 n

/-! ## Reading -/

/-- The number a run of digits goes on to, from the number before it. -/
def valueFrom (n : Nat) : List Char → Option Nat
  | [] => some n
  | c :: s =>
    match digit? c with
    | some d => valueFrom (10 * n + d) s
    | none => none

/-- The number of a run of digits that is not empty, by `valueFrom`. -/
def value? (s : List Char) : Option Nat :=
  if s.isEmpty then none else valueFrom 0 s

/-- The number that digits of a base up to sixteen spell, in either case; zero if there are none. -/
def valueIn? (base : Nat) (s : List Char) : Option Nat :=
  s.foldlM (fun n c => ((hexDigit? c).filter (· < base)).map (base * n + ·)) 0

/-- A number no larger than `max`, with an optional plus sign before its digits. -/
def parse? (max : Nat) (s : List Char) : Option Nat :=
  let digits := match s with
    | '+' :: rest => rest
    | _ => s
  match value? digits with
  | some n => if n ≤ max then some n else none
  | none => none

end VolumeDriver.Numeral
