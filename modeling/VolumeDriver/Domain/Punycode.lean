set_option autoImplicit false

/-! # Text in letters, digits and dashes

A label of a domain name in any script is written with the characters of ASCII that it has, a dash, and
a code for the others: in ascending order, how far each one is from the one before, counted in places of
the text and code points. The numbers are written in base 36, the smallest digit first, with thresholds
that tell the last digit and follow the size of the numbers (`adapt`).

`Punycode.encode` and `Punycode.decode?` are on code points. -/

namespace VolumeDriver.Domain.Punycode

/-- The first code point that is not written as it is. -/
def firstCoded : Nat := 128

/-- The number of digits. -/
def base : Nat := 36

/-- Which numbers are expected at first. -/
def firstBias : Nat := 72

/-- The digit of a value: letters, then digits. -/
def digitChar (d : Nat) : Char :=
  if d < 26 then Char.ofNat ('a'.toNat + d) else Char.ofNat ('0'.toNat + (d - 26))

/-- The value of a digit. -/
def digitValue? (c : Char) : Option Nat :=
  if 'a' ≤ c ∧ c ≤ 'z' then some (c.toNat - 'a'.toNat)
  else if 'A' ≤ c ∧ c ≤ 'Z' then some (c.toNat - 'A'.toNat)
  else if '0' ≤ c ∧ c ≤ '9' then some (c.toNat - '0'.toNat + 26)
  else none

/-- The least value that a digit has at a place, counted in steps of the base, when another one follows. -/
def threshold (place bias : Nat) : Nat :=
  max 1 (min 26 (place - bias))

theorem threshold_pos (place bias : Nat) : 1 ≤ threshold place bias := by
  unfold threshold; omega

/-- How often a number is divided until it is small, in steps of the base, and what is left of it. -/
def shrink (steps n : Nat) : Nat × Nat :=
  if 455 < n then shrink (steps + base) (n / 35) else (steps, n)
termination_by n
decreasing_by omega

/-- Which numbers are expected after a number, when the text has `count` characters. -/
def adapt (number count : Nat) (isFirst : Bool) : Nat :=
  let n := if isFirst then number / 700 else number / 2
  let (steps, n) := shrink 0 (n + n / count)
  steps + base * n / (n + 38)

/-! ## Writing -/

/-- The digits of a number from a place on. -/
def digits (bias place n : Nat) : List Char :=
  let t := threshold place bias
  if n < t then [digitChar n]
  else digitChar (t + (n - t) % (base - t)) :: digits bias (place + base) ((n - t) / (base - t))
termination_by n
decreasing_by
  have := threshold_pos place bias
  have := Nat.div_le_self (n - threshold place bias) (base - threshold place bias)
  omega

/-- What is being written. -/
structure Writing where
  /-- the digits so far, in reverse -/
  written : List Char := []
  /-- how far it is from the last character that was written -/
  distance : Nat := 0
  bias : Nat := firstBias
  /-- how many characters of the text are written -/
  count : Nat

/-- Passes over a character of the text on the way to those with a code point. -/
def Writing.pass (plain code : Nat) (w : Writing) (n : Nat) : Writing :=
  if n < code then { w with distance := w.distance + 1 }
  else if n = code then
    { written := (digits w.bias base w.distance).reverse ++ w.written
      distance := 0
      bias := adapt w.distance (w.count + 1) (w.count = plain)
      count := w.count + 1 }
  else w

/-- Writes the characters with the code points of a list, which is in ascending order. `from_` is the
    first code point that is not dealt with yet. -/
def writeCodes (text : List Nat) (plain : Nat) (from_ : Nat) (w : Writing) : List Nat → Writing
  | [] => w
  | code :: codes =>
    let w := { w with distance := w.distance + (code - from_) * (w.count + 1) }
    let w := text.foldl (Writing.pass plain code) w
    writeCodes text plain (code + 1) { w with distance := w.distance + 1 } codes

/-- A text in letters, digits and dashes; `decode?` reads it back. -/
def encode (text : List Nat) : List Char :=
  let plain := text.filter (· < firstCoded)
  let codes := ((text.filter (firstCoded ≤ ·)).mergeSort fun a b => decide (a ≤ b)).eraseDups
  let w := writeCodes text plain.length firstCoded { count := plain.length } codes
  plain.map Char.ofNat ++ (if plain.isEmpty then [] else ['-']) ++ w.written.reverse

/-! ## Reading -/

/-- Reads a number off the front: the number before it and this one together, and what follows. `weight`
    is what the next digit counts. -/
def number? (bias : Nat) (place weight sum : Nat) : List Char → Option (Nat × List Char)
  | [] => none
  | c :: rest =>
    match digitValue? c with
    | none => none
    | some d =>
      let t := threshold place bias
      if d < t then some (sum + d * weight, rest)
      else number? bias (place + base) (weight * (base - t)) (sum + d * weight) rest

/-- Reads character after character into a text; of at most `fuel` characters. -/
def readCodes (bias code position : Nat) (text : List Nat) (fuel : Nat) (s : List Char) :
    Option (List Nat) :=
  match fuel, s with
  | _, [] => some text
  | 0, _ :: _ => none
  | fuel + 1, s =>
    match number? bias base 1 position s with
    | none => none
    | some (sum, rest) =>
      let count := text.length + 1
      let code := code + sum / count
      let place := sum % count
      if code.isValidChar then
        readCodes (adapt (sum - position) count (position = 0)) code (place + 1)
          (text.insertIdx place code) fuel rest
      else none

/-- The text that letters, digits and dashes spell. What is written as it is ends at the last dash; a
    dash with nothing before it is no such end. -/
def decode? (s : List Char) : Option (List Nat) :=
  let coded := (s.reverse.takeWhile (· ≠ '-')).reverse
  let plain := (s.take (s.length - coded.length)).dropLast
  let coded := if plain.isEmpty then s else coded
  readCodes firstBias firstCoded 0 (plain.map Char.toNat) coded.length coded

end VolumeDriver.Domain.Punycode
