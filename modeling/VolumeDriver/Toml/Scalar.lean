import VolumeDriver.Text.Numeral
set_option autoImplicit false

/-! # Numbers and moments in TOML

Values without quotes: truth values, integers, floating-point numbers, and dates and times. What a
number or moment is does not matter to this program, only that it is one. Integers are held in 128 bits,
with or without a sign, and a floating-point number must not be too large for 64 bits. -/

namespace VolumeDriver.Toml

/-! ## Digits -/

/-- Digits with single underscores between them: the digits. -/
def digitsOnly? (isDigit : Char → Bool) : List Char → Option (List Char)
  | [] => none
  | [c] => if isDigit c then some [c] else none
  | c :: '_' :: s => if isDigit c then (digitsOnly? isDigit s).map (c :: ·) else none
  | c :: s => if isDigit c then (digitsOnly? isDigit s).map (c :: ·) else none

/-- Whether a character is a digit in a base. -/
def isDigitIn (base : Nat) (c : Char) : Bool :=
  match Numeral.hexDigit? c with
  | some d => d < base
  | none => false

/-- The number that digits in a base spell. -/
def valueIn (base : Nat) (digits : List Char) : Nat :=
  digits.foldl (fun n c => base * n + (Numeral.hexDigit? c).getD 0) 0

/-- Decimal digits with underscores between them. -/
def decimals? (s : List Char) : Option (List Char) :=
  digitsOnly? (isDigitIn 10) s

/-- Decimal digits without a needless zero in front. -/
def wholeDigits? (s : List Char) : Option (List Char) := do
  let digits ← decimals? s
  if digits.head? = some '0' ∧ digits.length ≠ 1 then none else some digits

/-- The text without a sign, and whether the sign is a minus. -/
def unsigned : List Char → Bool × List Char
  | '+' :: s => (false, s)
  | '-' :: s => (true, s)
  | s => (false, s)

/-! ## Numbers -/

/-- Whether an integer can be held. -/
def fits (negative : Bool) (n : Nat) : Bool :=
  if negative then n ≤ Nat.pow 2 127 else n < Nat.pow 2 128

/-- Whether the text is an integer. -/
def isInteger (s : List Char) : Bool :=
  match s with
  | '0' :: 'x' :: digits => inBase 16 digits
  | '0' :: 'o' :: digits => inBase 8 digits
  | '0' :: 'b' :: digits => inBase 2 digits
  | _ =>
    let (negative, digits) := unsigned s
    match wholeDigits? digits with
    | some digits => fits negative (valueIn 10 digits)
    | none => false
where
  /-- Whether the digits are those of an integer in a base. -/
  inBase (base : Nat) (s : List Char) : Bool :=
    match digitsOnly? (isDigitIn base) s with
    | some digits => fits false (valueIn base digits)
    | none => false

/-- The power of ten that an exponent stands for; bounded, as larger ones all mean the same. -/
def exponent? (s : List Char) : Option Int := do
  let (negative, digits) := unsigned s
  let n := min (valueIn 10 (← decimals? digits)) 100000
  return if negative then -n else n

/-- The least number that is too large for 64 bits: halfway from the largest one to the next. -/
def tooLarge : Nat := Nat.pow 2 1024 - Nat.pow 2 970

/-- Whether `digits · 10 ^ power` can be held. -/
def fitsFloat (digits : List Char) (power : Int) : Bool :=
  let n := valueIn 10 digits
  if n = 0 then true
  else if power ≤ 0 then n < tooLarge * Nat.pow 10 power.natAbs
  else if 400 < power then false
  else n * Nat.pow 10 power.natAbs < tooLarge

/-- A mantissa: the digits before and after its point. -/
def mantissa? (s : List Char) : Option (List Char × List Char) :=
  match s.dropWhile (· ≠ '.') with
  | [] => (wholeDigits? s).map (·, [])
  | _ :: fraction => do
    return (← wholeDigits? (s.takeWhile (· ≠ '.')), ← decimals? fraction)

/-- Whether a character begins an exponent. -/
def isExponentMark (c : Char) : Bool :=
  c = 'e' || c = 'E'

/-- Whether the text is a floating-point number. -/
def isFloat (s : List Char) : Bool :=
  let (_, s) := unsigned s
  if s = ['i', 'n', 'f'] ∨ s = ['n', 'a', 'n'] then true
  else
    let mantissa := s.takeWhile fun c => !isExponentMark c
    match mantissa? mantissa, s.dropWhile fun c => !isExponentMark c with
    | some (whole, fraction), [] => fraction ≠ [] && fitsFloat (whole ++ fraction) (-fraction.length)
    | some (whole, fraction), _ :: exponent =>
      match exponent? exponent with
      | some e => fitsFloat (whole ++ fraction) (e - fraction.length)
      | none => false
    | none, _ => false

/-! ## Moments -/

/-- A number of exactly `count` digits within bounds. -/
def number? (count low high : Nat) (s : List Char) : Option (Nat × List Char) :=
  let digits := s.take count
  if digits.length = count ∧ digits.all (isDigitIn 10) then
    let n := valueIn 10 digits
    if low ≤ n ∧ n ≤ high then some (n, s.drop count) else none
  else none

/-- What follows an expected character. -/
def expect? (c : Char) : List Char → Option (List Char)
  | d :: s => if c = d then some s else none
  | [] => none

/-- The number of days in a month. -/
def daysIn (year month : Nat) : Nat :=
  if month = 2 then
    if year % 4 = 0 ∧ (year % 100 ≠ 0 ∨ year % 400 = 0) then 29 else 28
  else if month ∈ [4, 6, 9, 11] then 30 else 31

/-- What follows a date. -/
def date? (s : List Char) : Option (List Char) := do
  let (year, s) ← number? 4 0 9999 s
  let (month, s) ← number? 2 1 12 (← expect? '-' s)
  let (_, s) ← number? 2 1 (daysIn year month) (← expect? '-' s)
  return s

/-- What follows a time of day. The seconds may be left out. -/
def time? (s : List Char) : Option (List Char) := do
  let (_, s) ← number? 2 0 23 s
  let (_, s) ← number? 2 0 59 (← expect? ':' s)
  match s with
  | ':' :: s =>
    let (_, s) ← number? 2 0 60 s
    match s with
    | '.' :: s => if (s.takeWhile (isDigitIn 10)).isEmpty then none else s.dropWhile (isDigitIn 10)
    | s => return s
  | s => return s

/-- Whether the text is a distance to the zero meridian's time, or none. -/
def isOffset : List Char → Bool
  | [] => true
  | c :: s =>
    if c = 'Z' ∨ c = 'z' then s.isEmpty
    else if c = '+' ∨ c = '-' then
      match (do
        let (_, s) ← number? 2 0 23 s
        let (_, s) ← number? 2 0 59 (← expect? ':' s)
        return s : Option (List Char)) with
      | some rest => rest.isEmpty
      | none => false
    else false

/-- Whether the text is a date, a time, or both. -/
def isMoment (s : List Char) : Bool :=
  match date? s with
  | some [] => true
  | some (c :: rest) =>
    (c = 'T' || c = 't' || c = ' ') &&
      match time? rest with
      | some rest => isOffset rest
      | none => false
  | none =>
    match time? s with
    | some rest => rest.isEmpty
    | none => false

/-- The text of a value without quotes, and what follows it. A date may go on with a time after a
    blank. -/
def takeBare (s : List Char) : List Char × List Char :=
  let word := s.takeWhile inside
  let rest := s.dropWhile inside
  match date? word, rest with
  | some [], ' ' :: c :: rest =>
    if isDigitIn 10 c then
      (word ++ ' ' :: (c :: rest).takeWhile inside, (c :: rest).dropWhile inside)
    else (word, rest)
  | _, _ => (word, rest)
where
  /-- Whether a character may be inside such a value. -/
  inside (c : Char) : Bool :=
    !([' ', '\t', '\n', '\r', '#', ',', ']', '=', '[', '"', '\''].contains c ||
      c = Char.ofNat 0x7B || c = Char.ofNat 0x7D)

end VolumeDriver.Toml
