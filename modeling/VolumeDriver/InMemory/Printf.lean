import VolumeDriver.Text.Numeral
import VolumeDriver.Text.Utf8
set_option autoImplicit false

/-! # Formatted output of programs

`Printf.format` is what the program `printf` prints: a format with escapes and conversions, which is
gone through again as long as it uses up arguments and some are left. `Printf.unescape` is what the
shell's `echo` makes of its arguments. Everything is octets, for an escape can name any octet. -/

namespace VolumeDriver.InMemory.Printf

/-! ## Escapes -/

/-- The octet of a backslash. -/
def backslash : UInt8 := 0x5C

/-- The value of an octal digit. -/
def octal? (b : UInt8) : Option Nat :=
  if 0x30 ≤ b && b ≤ 0x37 then some (b.toNat - 0x30) else none

/-- The number that at most `n` octal digits go on to, and what follows them. -/
def octalRun : (n value : Nat) → List UInt8 → Nat × List UInt8
  | 0, value, s => (value, s)
  | _ + 1, value, [] => (value, [])
  | n + 1, value, b :: s =>
    match octal? b with
    | some d => octalRun n (8 * value + d) s
    | none => (value, b :: s)

/-- The octets that a backslash can name by a letter or a mark. -/
def named : List (UInt8 × UInt8) :=
  [(0x6E, 0x0A), (0x74, 0x09), (0x72, 0x0D), (0x61, 0x07), (0x62, 0x08), (0x66, 0x0C), (0x76, 0x0B),
   (0x5C, 0x5C), (0x22, 0x22), (0x27, 0x27)]

/-- What a backslash stands for together with what follows it, and the rest. -/
def escape : List UInt8 → List UInt8 × List UInt8
  | [] => ([backslash], [])
  | b :: s =>
    match named.lookup b with
    | some octet => ([octet], s)
    | none =>
      if (octal? b).isSome then
        let (value, rest) := octalRun 3 0 (b :: s)
        ([UInt8.ofNat value], rest)
      else ([backslash, b], s)

/-- The text of an argument with escapes, in which an octal number has a zero before it. Nothing is
    printed any more after `\c`, which the second result tells. -/
def unescapeFrom : (fuel : Nat) → List UInt8 → List UInt8 × Bool
  | 0, _ | _ + 1, [] => ([], false)
  | fuel + 1, b :: s =>
    if b ≠ backslash then
      let (text, stops) := unescapeFrom fuel s
      (b :: text, stops)
    else
      match s with
      | 0x63 :: _ => ([], true)
      | 0x30 :: digits =>
        let (value, rest) := octalRun 3 0 digits
        let (text, stops) := unescapeFrom fuel rest
        (UInt8.ofNat value :: text, stops)
      | s =>
        let (octets, rest) := escape s
        let (text, stops) := unescapeFrom fuel rest
        (octets ++ text, stops)

/-- The text of an argument with each `escape` replaced, and whether it ends all output. -/
def unescape (s : List UInt8) : List UInt8 × Bool :=
  unescapeFrom s.length s

/-! ## Conversions -/

/-- How the text of a conversion is laid out. -/
structure Layout where
  /-- whether the text stands at the left of its field -/
  left : Bool := false
  /-- whether the field is filled up with zeros -/
  zeros : Bool := false
  width : Nat := 0
  precision : Option Nat := none
  deriving DecidableEq, Repr

/-- Whether an octet is a decimal digit. -/
def isDigit (b : UInt8) : Bool :=
  0x30 ≤ b && b ≤ 0x39

/-- The number that some decimal digits go on to, and what follows them. -/
def decimalRun (value : Nat) : List UInt8 → Nat × List UInt8
  | [] => (value, [])
  | b :: s =>
    if isDigit b then decimalRun (10 * value + (b.toNat - 0x30)) s else (value, b :: s)

/-- The flags of a conversion, and what follows them. -/
def flags (l : Layout) : List UInt8 → Layout × List UInt8
  | 0x2D :: s => flags { l with left := true } s
  | 0x30 :: s => flags { l with zeros := true } s
  | s => (l, s)

/-- The layout of a conversion, and what follows it. -/
def layout (s : List UInt8) : Layout × List UInt8 :=
  let (l, s) := flags {} s
  let (width, s) := decimalRun 0 s
  match s with
  | 0x2E :: s =>
    let (precision, s) := decimalRun 0 s
    ({ l with width, precision := some precision }, s)
  | s => ({ l with width }, s)

/-- A text in its field. -/
def Layout.fill (l : Layout) (text : List UInt8) : List UInt8 :=
  let missing := l.width - text.length
  if l.left then text ++ List.replicate missing 0x20
  else List.replicate missing (if l.zeros then 0x30 else 0x20) ++ text

/-- A text cut to the precision. -/
def Layout.cut (l : Layout) (text : List UInt8) : List UInt8 :=
  match l.precision with
  | some n => text.take n
  | none => text

/-- The number of an argument, whether it is below zero, and no number at all as zero. -/
def numberOf (arg : List UInt8) : Bool × Nat :=
  match arg with
  | 0x2D :: digits => (true, (decimalRun 0 digits).1)
  | digits => (false, (decimalRun 0 digits).1)

/-- The text of a number in some base. -/
def numberText (base : Nat) (arg : List UInt8) : List UInt8 :=
  let (negative, n) := numberOf arg
  (if negative then [0x2D] else []) ++ Utf8.encode (Numeral.digits base n)

/-- What a conversion prints of an argument, and whether it ends all output. -/
def convert (l : Layout) (conversion : UInt8) (arg : List UInt8) : List UInt8 × Bool :=
  if conversion = 0x73 then (l.fill (l.cut arg), false)
  else if conversion = 0x62 then
    let (text, stops) := unescape arg
    (l.fill (l.cut text), stops)
  else if conversion = 0x63 then (l.fill (arg.take 1), false)
  else if conversion = 0x64 ∨ conversion = 0x69 ∨ conversion = 0x75 then
    (l.fill (numberText 10 arg), false)
  else if conversion = 0x78 then (l.fill (numberText 16 arg), false)
  else if conversion = 0x6F then (l.fill (numberText 8 arg), false)
  else ([], true)

/-! ## Formats -/

/-- What a pass through a format leaves. -/
structure Pass where
  text : List UInt8
  /-- the arguments that are left -/
  rest : List (List UInt8)
  /-- whether there was a conversion -/
  converts : Bool
  /-- whether all output has ended -/
  stops : Bool

/-- What is printed before a pass goes on. -/
def Pass.after (text : List UInt8) (p : Pass) : Pass :=
  { p with text := text ++ p.text }

/-- Goes through a format once. Where arguments are missing they are empty. -/
def pass : (fuel : Nat) → List UInt8 → List (List UInt8) → Pass
  | 0, _, args | _ + 1, [], args => ⟨[], args, false, false⟩
  | fuel + 1, b :: s, args =>
    if b = backslash then
      let (octets, s) := escape s
      (pass fuel s args).after octets
    else if b ≠ 0x25 then (pass fuel s args).after [b]
    else
      match layout s with
      | (_, 0x25 :: s) => (pass fuel s args).after [0x25]
      | (l, conversion :: s) =>
        let (text, stops) := convert l conversion (args.headD [])
        if stops then ⟨text, args.tail, true, true⟩
        else { (pass fuel s args.tail).after text with converts := true }
      | (_, []) => ⟨[], args, false, true⟩

/-- Goes through a format with `pass` as long as it uses up arguments. -/
def passes (format : List UInt8) : (fuel : Nat) → List (List UInt8) → List UInt8
  | 0, _ => []
  | fuel + 1, args =>
    let p := pass format.length format args
    if p.stops || !p.converts || p.rest.isEmpty then p.text
    else p.text ++ passes format fuel p.rest

/-- What is printed of some arguments. -/
def format (format : List UInt8) (args : List (List UInt8)) : List UInt8 :=
  passes format (args.length + 1) args

end VolumeDriver.InMemory.Printf
