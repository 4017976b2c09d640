import VolumeDriver.Decimal.Shortest
import VolumeDriver.Json.Fault
import VolumeDriver.Text.Utf8
set_option autoImplicit false

/-! # The pieces of a JSON text

A reader takes the octets that are still unread and returns what it read with the octets after it.
Here are the readers of the pieces that have no pieces of their own (blanks, words, strings, numbers),
and `skipValue`, which passes over a value of any kind and depth.

Octets, not characters: every octet that means something to JSON is ASCII, and the octets of other
characters are never taken for one. A string's octets are checked to be UTF-8 when it is closed. -/

namespace VolumeDriver.Json

/-- Takes the unread octets to a value and the octets after it. -/
abbrev Reader (α : Type) := List UInt8 → Except Fault (α × List UInt8)

/-! ## Blanks and words -/

/-- Space, tab, line feed and carriage return may stand between any two pieces. -/
def isBlank (b : UInt8) : Bool :=
  b = 0x20 || b = 0x09 || b = 0x0A || b = 0x0D

/-- The octets from the first that is not blank (`isBlank`). -/
def skipBlanks (s : List UInt8) : List UInt8 :=
  s.dropWhile isBlank

theorem length_skipBlanks_le (s : List UInt8) : (skipBlanks s).length ≤ s.length :=
  (List.dropWhile_sublist _).length_le

/-- Passes over the rest of a word whose first letter has been read. -/
def skipWord : (word s : List UInt8) → Except Fault (List UInt8)
  | [], s => .ok s
  | _ :: _, [] => .error (.here .unfinishedValue [])
  | w :: word, b :: s => if w = b then skipWord word s else .error (.here .expectedWord s)

theorem length_of_skipWord {word s rest : List UInt8} (h : skipWord word s = .ok rest) :
    rest.length ≤ s.length := by
  induction word generalizing s with
  | nil => simp only [skipWord, Except.ok.injEq] at h; simp [h]
  | cons w word ih =>
    cases s with
    | nil => simp [skipWord] at h
    | cons b s =>
      simp only [skipWord] at h
      split at h
      · have := ih h
        simp only [List.length_cons]
        omega
      · simp at h

/-- `ull`, the rest of `null`. -/
def restOfNull : List UInt8 := [0x75, 0x6C, 0x6C]

/-- `rue`, the rest of `true`. -/
def restOfTrue : List UInt8 := [0x72, 0x75, 0x65]

/-- `alse`, the rest of `false`. -/
def restOfFalse : List UInt8 := [0x61, 0x6C, 0x73, 0x65]

/-! ## Strings -/

/-- The value of a hexadecimal digit. -/
def hexDigit? (b : UInt8) : Option Nat :=
  Numeral.hexDigit? (Char.ofNat b.toNat)

/-- The value of the four digits in front, each a `hexDigit?`. -/
def hexFour : List UInt8 → Except Fault Nat
  | a :: b :: c :: d :: rest =>
    match hexDigit? a, hexDigit? b, hexDigit? c, hexDigit? d with
    | some a, some b, some c, some d => .ok (a * 0x1000 + b * 0x100 + c * 0x10 + d)
    | _, _, _, _ => .error (.here .invalidEscape rest)
  | _ => .error (.here .unfinishedText [])

/-- Whether the number is the first half of a surrogate pair. -/
def isLeading (n : Nat) : Bool :=
  0xD800 ≤ n && n ≤ 0xDBFF

/-- Whether the number is the second half of a surrogate pair. -/
def isTrailing (n : Nat) : Bool :=
  0xDC00 ≤ n && n ≤ 0xDFFF

/-- The character of an escape by number, after its `u`, and how many octets the escape has left. A
    character beyond U+FFFF is written as a surrogate pair, each half as an escape of its own. -/
def numberedEscape (s : List UInt8) : Except Fault (Char × Nat) := do
  let n ← hexFour s
  if isTrailing n then throw (.here .loneSurrogate (s.drop 4))
  if isLeading n then
    match s.drop 4 with
    | [] => throw (.here .unfinishedText [])
    | b :: s =>
      if b ≠ 0x5C then throw (.here .unfinishedSurrogate s)
      match s with
      | [] => throw (.here .unfinishedText [])
      | u :: s =>
        if u ≠ 0x75 then throw (.here .unfinishedSurrogate s)
        let m ← hexFour s
        if !isTrailing m then throw (.here .loneSurrogate (s.drop 4))
        return (Char.ofNat (0x10000 + (n - 0xD800) * 0x400 + (m - 0xDC00)), 10)
  else return (Char.ofNat n, 4)

/-- The octets that an escape stands for, after its backslash, and how many octets it has. -/
def escaped : List UInt8 → Except Fault (List UInt8 × Nat)
  | [] => .error (.here .unfinishedText [])
  | b :: s =>
    if b = 0x22 ∨ b = 0x5C ∨ b = 0x2F then .ok ([b], 1)
    else if b = 0x62 then .ok ([0x08], 1)
    else if b = 0x66 then .ok ([0x0C], 1)
    else if b = 0x6E then .ok ([0x0A], 1)
    else if b = 0x72 then .ok ([0x0D], 1)
    else if b = 0x74 then .ok ([0x09], 1)
    else if b = 0x75 then
      match numberedEscape s with
      | .ok (c, width) => .ok (Utf8.encodeChar c, width + 1)
      | .error f => .error f
    else .error (.here .invalidEscape s)

/-- The octets of a string, after its opening quote, and the octets after its closing quote. -/
def textOctets : List UInt8 → Except Fault (List UInt8 × List UInt8)
  | [] => .error (.here .unfinishedText [])
  | b :: s =>
    if b = 0x22 then .ok ([], s)
    else if b = 0x5C then
      match escaped s with
      | .ok (octets, width) =>
        match textOctets (s.drop width) with
        | .ok (more, rest) => .ok (octets ++ more, rest)
        | .error f => .error f
      | .error f => .error f
    else if b < 0x20 then .error (.here .controlCharacter s)
    else
      match textOctets s with
      | .ok (more, rest) => .ok (b :: more, rest)
      | .error f => .error f
termination_by s => s.length
decreasing_by
  all_goals (simp only [List.length_drop, List.length_cons]; omega)

/-- The string after its opening quote, of which `textOctets` reads the octets. -/
def readText : Reader String := fun s =>
  match textOctets s with
  | .error f => .error f
  | .ok (octets, rest) =>
    match Utf8.toText? octets with
    | some content => .ok (content, rest)
    | none => .error (.here .invalidCharacter rest)

/-- How many octets an escape has after its backslash, whatever it stands for. -/
def escapeWidth : List UInt8 → Except Fault Nat
  | [] => .error (.here .unfinishedText [])
  | b :: s =>
    if b = 0x22 ∨ b = 0x5C ∨ b = 0x2F ∨ b = 0x62 ∨ b = 0x66 ∨ b = 0x6E ∨ b = 0x72 ∨ b = 0x74 then
      .ok 1
    else if b = 0x75 then
      match hexFour s with
      | .ok _ => .ok 5
      | .error f => .error f
    else .error (.here .invalidEscape s)

/-- Passes over a string after its opening quote. Its characters are not looked at, so neither halves of
    surrogate pairs nor octets that are no UTF-8 matter. -/
def skipText : List UInt8 → Except Fault (List UInt8)
  | [] => .error (.here .unfinishedText [])
  | b :: s =>
    if b = 0x22 then .ok s
    else if b = 0x5C then
      match escapeWidth s with
      | .ok width => skipText (s.drop width)
      | .error f => .error f
    else if b < 0x20 then .error (.here .controlCharacter (b :: s))
    else skipText s
termination_by s => s.length
decreasing_by
  all_goals (simp only [List.length_drop, List.length_cons]; omega)

theorem length_of_skipText {s rest : List UInt8} (h : skipText s = .ok rest) :
    rest.length ≤ s.length := by
  fun_induction skipText s with
  | case1 => simp at h
  | case2 s => simp only [Except.ok.injEq] at h; simp [h]
  | case3 s _ width hw ih =>
    have := ih h
    simp only [List.length_drop] at this
    simp only [List.length_cons]
    omega
  | case4 => simp at h
  | case5 => simp at h
  | case6 b s _ _ _ ih =>
    have := ih h
    simp only [List.length_cons]
    omega

/-! ## Numbers -/

/-- A number as read: whole numbers stay exact while they fit 64 bits. -/
inductive Number
  | natural (n : Nat)
  /-- the number below zero -/
  | negative (n : Nat)
  | fraction (value : Float)

/-- Numbers with a fraction are shown in the fewest digits that read back. -/
def fractionNotation : Decimal.Notation := ⟨-5, 15, 1⟩

/-- The `Number` in a message. -/
def Number.found : Number → Found
  | .natural n => .integer n
  | .negative n => .integer (-(n : Int))
  | .fraction value => .fraction (Decimal.text fractionNotation value)

/-- Whether the octet is a decimal digit. -/
def isDigit (b : UInt8) : Bool :=
  0x30 ≤ b && b ≤ 0x39

/-- The value of a decimal digit. -/
def digitValue (b : UInt8) : Nat :=
  b.toNat - 0x30

/-- Goes on with a number by as many digits as keep it up to `max`; returns the digits left over. -/
def accumulate (max n : Nat) : List UInt8 → Nat × List UInt8
  | [] => (n, [])
  | d :: ds =>
    if n * 10 + digitValue d ≤ max then accumulate max (n * 10 + digitValue d) ds else (n, d :: ds)

/-- The largest number of 64 bits. -/
def maxNatural : Nat := Nat.pow 2 64 - 1

/-- The double nearest to `significand · 10^exponent`, computed by one or two roundings. -/
def scaleFraction (positive : Bool) (significand : Nat) (exponent : Int) (rest : List UInt8) :
    Except Fault (Number × List UInt8) :=
  let ten := fun n : Nat => Float.ofScientific 1 false n
  let value := significand.toUInt64.toFloat
  let signed := fun f : Float => Number.fraction (if positive then f else -f)
  if significand = 0 then .ok (signed value, rest)
  else if 308 < exponent then .error (.here .numberOutOfRange rest)
  else if 0 ≤ exponent then
    let scaled := value * ten exponent.toNat
    if scaled.isInf then .error (.here .numberOutOfRange rest) else .ok (signed scaled, rest)
  else if -308 ≤ exponent then .ok (signed (value / ten (-exponent).toNat), rest)
  else if -616 ≤ exponent then
    .ok (signed (value / ten 308 / ten (-exponent - 308).toNat), rest)
  else .ok (signed 0, rest)

/-- The exponent, after its `e`, of a number `significand · 10^exponent` read so far. -/
def readExponent (positive : Bool) (significand : Nat) (exponent : Int) (s : List UInt8) :
    Except Fault (Number × List UInt8) :=
  let (up, s) := match s with
    | b :: t => if b = 0x2B then (true, t) else if b = 0x2D then (false, t) else (true, s)
    | [] => (true, [])
  match s with
  | [] => .error (.here .unfinishedValue [])
  | d :: t =>
    if isDigit d then
      let rest := t.dropWhile isDigit
      match accumulate (Nat.pow 2 31 - 1) (digitValue d) (t.takeWhile isDigit) with
      | (e, []) => scaleFraction positive significand (if up then exponent + e else exponent - e) rest
      | (_, _ :: more) =>
        if significand ≠ 0 ∧ up then .error (.here .numberOutOfRange (more ++ rest))
        else .ok (.fraction (if positive then 0 else -0), rest)
    else .error (.here .invalidNumber t)

/-- The end of a number with a fraction: its exponent, if it has one. -/
def finishFraction (positive : Bool) (significand : Nat) (exponent : Int) (s : List UInt8) :
    Except Fault (Number × List UInt8) :=
  match s with
  | b :: t =>
    if b = 0x65 ∨ b = 0x45 then readExponent positive significand exponent t
    else scaleFraction positive significand exponent s
  | [] => scaleFraction positive significand exponent []

/-- The digits after the point of a number `significand · 10^exponent` read so far. -/
def readFraction (positive : Bool) (significand : Nat) (exponent : Int) (s : List UInt8) :
    Except Fault (Number × List UInt8) :=
  let digits := s.takeWhile isDigit
  let rest := s.dropWhile isDigit
  if digits.isEmpty then
    .error (.atNext (if rest.isEmpty then .unfinishedValue else .invalidNumber) rest)
  else
    let (n, left) := accumulate maxNatural significand digits
    finishFraction positive n (exponent - (digits.length - left.length : Nat)) rest

/-- The end of a number whose digits before the point have been read. -/
def finishInteger (positive : Bool) (n : Nat) (s : List UInt8) :
    Except Fault (Number × List UInt8) :=
  let whole : Number :=
    if positive then .natural n
    else if n ≠ 0 ∧ n ≤ Nat.pow 2 63 then .negative n
    else .fraction (-n.toUInt64.toFloat)
  match s with
  | b :: t =>
    if b = 0x2E then readFraction positive n 0 t
    else if b = 0x65 ∨ b = 0x45 then readExponent positive n 0 t
    else .ok (whole, s)
  | [] => .ok (whole, [])

/-- The end of a number of more digits than 64 bits hold, `extra` of which have been left out. -/
def finishLongInteger (positive : Bool) (n extra : Nat) (s : List UInt8) :
    Except Fault (Number × List UInt8) :=
  match s with
  | b :: t =>
    if b = 0x2E then readFraction positive n extra t else finishFraction positive n extra s
  | [] => finishFraction positive n extra []

/-- A number after its sign. A zero in front must be the only digit before the point. -/
def readNumber (positive : Bool) : Reader Number
  | [] => .error (.here .unfinishedValue [])
  | d :: s =>
    if d = 0x30 then
      match s with
      | b :: _ => if isDigit b then .error (.atNext .invalidNumber s) else finishInteger positive 0 s
      | [] => finishInteger positive 0 []
    else if isDigit d then
      let rest := s.dropWhile isDigit
      match accumulate maxNatural (digitValue d) (s.takeWhile isDigit) with
      | (n, []) => finishInteger positive n rest
      | (n, left) => finishLongInteger positive n left.length rest
    else .error (.here .invalidNumber s)

/-- Passes over the exponent of a number after its `e`. -/
def skipExponent (s : List UInt8) : Except Fault (List UInt8) :=
  let s := match s with
    | b :: t => if b = 0x2B ∨ b = 0x2D then t else s
    | [] => []
  match s with
  | d :: t => if isDigit d then .ok (t.dropWhile isDigit) else .error (.here .invalidNumber t)
  | [] => .error (.here .invalidNumber [])

/-- Passes over what follows the digits before the point. -/
def skipFraction (s : List UInt8) : Except Fault (List UInt8) :=
  match s with
  | b :: t =>
    if b = 0x2E then
      if (t.takeWhile isDigit).isEmpty then .error (.atNext .invalidNumber t)
      else
        match t.dropWhile isDigit with
        | e :: u => if e = 0x65 ∨ e = 0x45 then skipExponent u else .ok (e :: u)
        | [] => .ok []
    else if b = 0x65 ∨ b = 0x45 then skipExponent t
    else .ok s
  | [] => .ok []

/-- Passes over a number after its sign; its size does not matter. -/
def skipNumber : List UInt8 → Except Fault (List UInt8)
  | [] => .error (.here .invalidNumber [])
  | d :: s =>
    if d = 0x30 then
      match s with
      | b :: _ => if isDigit b then .error (.atNext .invalidNumber s) else skipFraction s
      | [] => .ok []
    else if isDigit d then skipFraction (s.dropWhile isDigit)
    else .error (.here .invalidNumber s)

theorem length_dropWhile_le {α : Type} (p : α → Bool) (s : List α) :
    (s.dropWhile p).length ≤ s.length :=
  (List.dropWhile_sublist p).length_le

theorem length_of_skipExponent {s rest : List UInt8} (h : skipExponent s = .ok rest) :
    rest.length ≤ s.length := by
  unfold skipExponent at h
  cases s with
  | nil => simp at h
  | cons b t =>
    by_cases hb : b = 0x2B ∨ b = 0x2D
    · simp only [hb, if_true] at h
      cases t with
      | nil => simp at h
      | cons d u =>
        simp only at h
        split at h
        · simp only [Except.ok.injEq] at h
          have := length_dropWhile_le isDigit u
          subst h
          simp only [List.length_cons]
          omega
        · simp at h
    · simp only [hb, if_false] at h
      split at h
      · simp only [Except.ok.injEq] at h
        have := length_dropWhile_le isDigit t
        subst h
        simp only [List.length_cons]
        omega
      · simp at h

theorem length_of_skipFraction {s rest : List UInt8} (h : skipFraction s = .ok rest) :
    rest.length ≤ s.length := by
  cases s with
  | nil => simp only [skipFraction, Except.ok.injEq] at h; simp [← h]
  | cons b t =>
    simp only [skipFraction] at h
    have ht := length_dropWhile_le isDigit t
    split at h
    · split at h
      · simp at h
      · cases hd : t.dropWhile isDigit with
        | nil => simp only [hd, Except.ok.injEq] at h; simp [← h]
        | cons e u =>
          simp only [hd, List.length_cons] at h ht
          split at h
          · have := length_of_skipExponent h
            simp only [List.length_cons]
            omega
          · simp only [Except.ok.injEq] at h
            subst h
            simp only [List.length_cons]
            omega
    · split at h
      · have := length_of_skipExponent h
        simp only [List.length_cons]
        omega
      · simp only [Except.ok.injEq] at h
        simp [← h]

theorem length_of_skipNumber {s rest : List UInt8} (h : skipNumber s = .ok rest) :
    rest.length ≤ s.length := by
  cases s with
  | nil => simp [skipNumber] at h
  | cons d s =>
    simp only [skipNumber] at h
    split at h
    · cases s with
      | nil => simp only [Except.ok.injEq] at h; simp [← h]
      | cons b t =>
        simp only at h
        split at h
        · simp at h
        · have := length_of_skipFraction h
          simp only [List.length_cons] at this ⊢
          omega
    · split at h
      · have := length_of_skipFraction h
        have := length_dropWhile_le isDigit s
        simp only [List.length_cons]
        omega
      · simp at h

end VolumeDriver.Json
