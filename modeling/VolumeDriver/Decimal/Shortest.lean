import VolumeDriver.Text.Numeral
set_option autoImplicit false

/-! # The shortest decimal of a double

A finite double is `m · 2^q`. The decimals that read back as it form an interval around it, whose
ends belong to it exactly when `m` is even, for ties go to even. `shortest` takes the grids of one,
two, … significant digits in turn and tests the two neighbours of the value on each: the first grid
with a hit gives the digits, and of two hits the nearer one is taken.

`Notation.text` writes the digits out. All arithmetic is exact, on natural numbers. -/

namespace VolumeDriver.Decimal

/-- A positive double `mantissa · 2^exponent`, with the least mantissa of its binade marked: below it
    the doubles lie twice as close. -/
structure Binary where
  mantissa : Nat
  exponent : Int
  isLeast : Bool

/-- The value of the bits of a finite double, without its sign; none for zero. -/
def Binary.ofBits? (bits : UInt64) : Option Binary :=
  let fraction : Nat := bits.toNat % Nat.pow 2 52
  let field : Nat := bits.toNat / Nat.pow 2 52 % Nat.pow 2 11
  if field = 0 then
    if fraction = 0 then none else some ⟨fraction, -1074, false⟩
  else some ⟨Nat.pow 2 52 + fraction, (field : Int) - 1075, fraction = 0 && 1 < field⟩

/-- Significant digits, and the power of ten of the first. -/
structure Digits where
  digits : List Char
  exponent : Int

/-- `a · 2^i · 10^j` as a fraction. -/
def scaled (a : Nat) (i j : Int) : Nat × Nat :=
  (a * Nat.pow 2 i.toNat * Nat.pow 10 j.toNat, Nat.pow 2 (-i).toNat * Nat.pow 10 (-j).toNat)

/-- The least `k`, up to `fuel`, for which `num · 10^k` reaches `den`. -/
def leadingZeros (num den : Nat) : (fuel : Nat) → Nat
  | 0 => 0
  | fuel + 1 => if den ≤ num then 0 else 1 + leadingZeros (num * 10) den fuel

/-- The power of ten of the first significant digit. -/
def Binary.magnitude (b : Binary) : Int :=
  let (num, den) := scaled b.mantissa b.exponent 0
  if den ≤ num then ((Numeral.decimal (num / den)).length : Int) - 1
  else -(leadingZeros num den 400 : Int)

/-- The neighbour of the value on the grid of `10^(-scale)` that reads back as it, if one does. -/
def Binary.onGrid? (b : Binary) (scale : Int) : Option Nat :=
  -- one unit here is a quarter of the distance between doubles
  let (num, den) := scaled 1 (b.exponent - 2) scale
  let value := 4 * b.mantissa * num
  let low := (4 * b.mantissa - if b.isLeast then 1 else 2) * num
  let high := (4 * b.mantissa + 2) * num
  let below := value / den
  let above := below + 1
  let even := b.mantissa % 2 = 0
  let readsBack := fun n : Nat =>
    (low < n * den ∨ even ∧ low = n * den) ∧ (n * den < high ∨ even ∧ high = n * den)
  if readsBack below then
    if readsBack above ∧
        (above * den - value < value - below * den ∨
          above * den - value = value - below * den ∧ above % 2 = 0) then some above
    else some below
  else if readsBack above then some above
  else none

/-- A number's digits without the zeros at its end. -/
def significant (n : Nat) : List Char :=
  ((Numeral.decimal n).reverse.dropWhile (· = '0')).reverse

/-- The digits on the first grid with a hit, from `count` digits on. -/
def Binary.shortestFrom (b : Binary) (magnitude : Int) (count : Nat) : (fuel : Nat) → Digits
  | 0 => ⟨['0'], 0⟩
  | fuel + 1 =>
    let scale := (count : Int) - 1 - magnitude
    match b.onGrid? scale with
    | some n => ⟨significant n, ((Numeral.decimal n).length : Int) - 1 - scale⟩
    | none => b.shortestFrom magnitude (count + 1) fuel

/-- The fewest digits that read back as the value; seventeen always do. -/
def Binary.shortest (b : Binary) : Digits :=
  b.shortestFrom b.magnitude 1 17

/-- How digits are written out: positionally while the first digit's power of ten lies between
    `least` and `greatest`, and with an exponent of at least `width` digits otherwise. -/
structure Notation where
  least : Int
  greatest : Int
  width : Nat

/-- The digits written out. -/
def Notation.text (n : Notation) (d : Digits) : List Char :=
  let point := (d.exponent + 1).toNat
  if n.least ≤ d.exponent ∧ d.exponent ≤ n.greatest then
    if d.exponent < 0 then
      '0' :: '.' :: List.replicate (-d.exponent - 1).toNat '0' ++ d.digits
    else if d.digits.length ≤ point then
      d.digits ++ List.replicate (point - d.digits.length) '0' ++ ['.', '0']
    else d.digits.take point ++ '.' :: d.digits.drop point
  else
    let exponent := Numeral.decimal d.exponent.natAbs
    let mantissa := match d.digits with
      | [] => []
      | [c] => [c]
      | c :: rest => c :: '.' :: rest
    mantissa ++ ['e', if d.exponent < 0 then '-' else '+'] ++
      List.replicate (n.width - exponent.length) '0' ++ exponent

/-- A finite double in the fewest digits that read back as it. -/
def text (n : Notation) (f : Float) : String :=
  let bits := f.toBits
  let sign := if Nat.pow 2 63 ≤ bits.toNat then ['-'] else []
  match Binary.ofBits? bits with
  | none => String.ofList (sign ++ ['0', '.', '0'])
  | some b => String.ofList (sign ++ n.text b.shortest)

end VolumeDriver.Decimal
