set_option autoImplicit false

/-! # UTF-8

Text as octets. `encode` writes the characters of a text one after the other. `head` reads what
stands at the front of some octets: a character, octets that no character has, or a character that
is cut short by the end. Two readers are built on it: `decode` stops at the first fault and says
where it is, `decodeLossy` puts the replacement character there and goes on.

A fault covers as many octets as could still have begun a character, so one bad octet never hides a
good one after it. -/

namespace VolumeDriver.Utf8

/-! ## Writing -/

/-- The octets of one character: one to four, the first telling how many follow. -/
def encodeChar (c : Char) : List UInt8 :=
  let n := c.toNat
  if n < 0x80 then [n.toUInt8]
  else if n < 0x800 then [(0xC0 + n / 0x40).toUInt8, (0x80 + n % 0x40).toUInt8]
  else if n < 0x10000 then
    [(0xE0 + n / 0x1000).toUInt8, (0x80 + n / 0x40 % 0x40).toUInt8, (0x80 + n % 0x40).toUInt8]
  else
    [(0xF0 + n / 0x40000).toUInt8, (0x80 + n / 0x1000 % 0x40).toUInt8,
      (0x80 + n / 0x40 % 0x40).toUInt8, (0x80 + n % 0x40).toUInt8]

/-- The octets of a text, character by character with `encodeChar`. -/
def encode (s : List Char) : List UInt8 :=
  s.flatMap encodeChar

/-- The octets of a string, by `encode`. -/
def octets (s : String) : List UInt8 :=
  encode s.toList

/-! ## The character in front -/

/-- What stands at the front of some octets. -/
inductive Head
  /-- a character, and the octets after it -/
  | char (c : Char) (rest : List UInt8)
  /-- `width` octets that begin no character, and the octets after them -/
  | invalid (width : Nat) (rest : List UInt8)
  /-- the first octets of a character, and then the end -/
  | cut

/-- Whether the octet may stand second or later in a character. -/
def isContinuation (b : UInt8) : Bool :=
  0x80 ≤ b && b ≤ 0xBF

/-- Whether `b` may follow `a`, the first of three octets: no character has two encodings and no
    surrogate has one. -/
def mayFollowThree (a b : UInt8) : Bool :=
  if a = 0xE0 then 0xA0 ≤ b && b ≤ 0xBF
  else if a = 0xED then 0x80 ≤ b && b ≤ 0x9F
  else isContinuation b

/-- Whether `b` may follow `a`, the first of four octets: no character has two encodings and none
    lies above U+10FFFF. -/
def mayFollowFour (a b : UInt8) : Bool :=
  if a = 0xF0 then 0x90 ≤ b && b ≤ 0xBF
  else if a = 0xF4 then 0x80 ≤ b && b ≤ 0x8F
  else isContinuation b

/-- The six low bits of a continuation octet. -/
def low (b : UInt8) : Nat :=
  b.toNat % 0x40

/-- Two octets, the first known to begin two. -/
def headTwo (a : UInt8) : List UInt8 → Head
  | [] => .cut
  | b :: rest =>
    if isContinuation b then .char (Char.ofNat (a.toNat % 0x20 * 0x40 + low b)) rest
    else .invalid 1 (b :: rest)

/-- Three octets, the first known to begin three. -/
def headThree (a : UInt8) : List UInt8 → Head
  | [] => .cut
  | b :: rest =>
    if mayFollowThree a b then
      match rest with
      | [] => .cut
      | c :: rest =>
        if isContinuation c then
          .char (Char.ofNat (a.toNat % 0x10 * 0x1000 + low b * 0x40 + low c)) rest
        else .invalid 2 (c :: rest)
    else .invalid 1 (b :: rest)

/-- Four octets, the first known to begin four. -/
def headFour (a : UInt8) : List UInt8 → Head
  | [] => .cut
  | b :: rest =>
    if mayFollowFour a b then
      match rest with
      | [] => .cut
      | c :: rest =>
        if isContinuation c then
          match rest with
          | [] => .cut
          | d :: rest =>
            if isContinuation d then
              .char (Char.ofNat (a.toNat % 0x8 * 0x40000 + low b * 0x1000 + low c * 0x40 + low d)) rest
            else .invalid 3 (d :: rest)
        else .invalid 2 (c :: rest)
    else .invalid 1 (b :: rest)

/-- What stands at the front of `a :: rest`. -/
def head (a : UInt8) (rest : List UInt8) : Head :=
  if a < 0x80 then .char (Char.ofNat a.toNat) rest
  else if 0xC2 ≤ a && a ≤ 0xDF then headTwo a rest
  else if 0xE0 ≤ a && a ≤ 0xEF then headThree a rest
  else if 0xF0 ≤ a && a ≤ 0xF4 then headFour a rest
  else .invalid 1 rest

/-- The octets after the front, none after a cut character. -/
def Head.rest : Head → List UInt8
  | .char _ rest => rest
  | .invalid _ rest => rest
  | .cut => []

theorem headTwo_rest_length (a : UInt8) (s : List UInt8) : (headTwo a s).rest.length ≤ s.length := by
  unfold headTwo
  split
  · simp [Head.rest]
  · split <;> simp [Head.rest]

theorem headThree_rest_length (a : UInt8) (s : List UInt8) :
    (headThree a s).rest.length ≤ s.length := by
  unfold headThree
  repeat' split
  all_goals (simp [Head.rest]; try omega)

theorem headFour_rest_length (a : UInt8) (s : List UInt8) :
    (headFour a s).rest.length ≤ s.length := by
  unfold headFour
  repeat' split
  all_goals (simp [Head.rest]; try omega)

/-- What is left is no longer than what follows the first octet, so readers end. -/
theorem head_rest_length (a : UInt8) (s : List UInt8) : (head a s).rest.length ≤ s.length := by
  unfold head
  split
  · simp [Head.rest]
  · split
    · exact headTwo_rest_length a s
    · split
      · exact headThree_rest_length a s
      · split
        · exact headFour_rest_length a s
        · simp [Head.rest]

/-! ## Reading -/

/-- Where octets stop being UTF-8. -/
inductive Fault
  /-- `width` octets from `offset` on begin no character -/
  | invalid (width offset : Nat)
  /-- the octets end inside the character that begins at `offset` -/
  | incomplete (offset : Nat)
  deriving DecidableEq, Repr

/-- The fault in words. -/
def Fault.message : Fault → String
  | .invalid width offset => s!"invalid utf-8 sequence of {width} bytes from index {offset}"
  | .incomplete offset => s!"incomplete utf-8 byte sequence from index {offset}"

/-- The characters of octets that begin at `offset`, or the first fault. -/
def decodeFrom (offset : Nat) : List UInt8 → Except Fault (List Char)
  | [] => .ok []
  | a :: s =>
    match _h : head a s with
    | .char c rest => (c :: ·) <$> decodeFrom (offset + c.utf8Size) rest
    | .invalid width _ => .error (.invalid width offset)
    | .cut => .error (.incomplete offset)
termination_by s => s.length
decreasing_by
  have := head_rest_length a s
  simp only [_h, Head.rest] at this
  simp only [List.length_cons]
  omega

/-- The characters of some octets, or the first `Fault`. -/
def decode (s : List UInt8) : Except Fault (List Char) :=
  decodeFrom 0 s

/-- The string some octets spell, if `decode` finds them UTF-8. -/
def toText? (s : List UInt8) : Option String :=
  match decode s with
  | .ok cs => some (String.ofList cs)
  | .error _ => none

/-- The characters of some octets, with U+FFFD for each run of octets that begins no character. -/
def decodeLossy : List UInt8 → List Char
  | [] => []
  | a :: s =>
    match _h : head a s with
    | .char c rest => c :: decodeLossy rest
    | .invalid _ rest => '\uFFFD' :: decodeLossy rest
    | .cut => ['\uFFFD']
termination_by s => s.length
decreasing_by
  all_goals
    have := head_rest_length a s
    simp only [_h, Head.rest] at this
    simp only [List.length_cons]
    omega

/-- `decodeLossy` as a string. -/
def toTextLossy (s : List UInt8) : String :=
  String.ofList (decodeLossy s)

end VolumeDriver.Utf8
