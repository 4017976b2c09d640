import VolumeDriver.Text.CompositionData
set_option autoImplicit false

/-! # Composed form

The same text can be written with accents apart or together with their letters. In composed form, marks
that follow the same character are in the order of their classes, and all is together that can be.
`Composition.compose` gives that form of a text, as code points.

A text is first taken apart, then put in order, and then put together. A syllable of Hangul consists of
two or three letters by a rule (`Hangul`). -/

namespace VolumeDriver.Composition

/-! ## Hangul -/

namespace Hangul

/-- The first syllable, and the number of syllables. -/
def syllables : Nat × Nat := (0xAC00, 11172)

/-- The first leading consonant, and the number of them. -/
def leading : Nat × Nat := (0x1100, 19)

/-- The first vowel, and the number of them. -/
def vowels : Nat × Nat := (0x1161, 21)

/-- What stands before the first trailing consonant, and the number of them with that. -/
def trailing : Nat × Nat := (0x11A7, 28)

/-- The place of a code point in a range. -/
def place? (range : Nat × Nat) (n : Nat) : Option Nat :=
  if range.1 ≤ n ∧ n < range.1 + range.2 then some (n - range.1) else none

/-- The letters of a syllable. -/
def letters? (n : Nat) : Option (List Nat) :=
  (place? syllables n).map fun i =>
    [leading.1 + i / (vowels.2 * trailing.2), vowels.1 + i / trailing.2 % vowels.2] ++
      if i % trailing.2 = 0 then [] else [trailing.1 + i % trailing.2]

/-- The syllable of a leading consonant and a vowel, or of an open syllable and a trailing consonant. -/
def together? (a b : Nat) : Option Nat :=
  match place? leading a, place? vowels b with
  | some l, some v => some (syllables.1 + (l * vowels.2 + v) * trailing.2)
  | _, _ =>
    match place? syllables a, place? trailing b with
    | some s, some t => if s % trailing.2 = 0 ∧ t ≠ 0 then some (a + t) else none
    | _, _ => none

end Hangul

/-! ## Taking apart -/

/-- The class of a mark; zero for other characters. -/
def classOf (n : Nat) : Nat :=
  match classes.find? n with
  | some r => r.given.headD 0
  | none => 0

/-- What a character consists of; of characters in characters down to some depth. -/
def apart (n : Nat) : (depth : Nat) → List Nat
  | 0 => [n]
  | depth + 1 =>
    match Hangul.letters? n with
    | some letters => letters
    | none =>
      match composed.find? n with
      | some ⟨_, _, _, first :: rest⟩ => apart first depth ++ rest
      | _ =>
        match separated.find? n with
        | some r => r.image n
        | none => [n]

/-- No character lies deeper inside of another. -/
def deepest : Nat := 4

/-! ## Putting in order -/

/-- Puts a mark behind the marks before it that do not have a greater class. Marks are in reverse. -/
def insertMark (m : Nat × Nat) : List (Nat × Nat) → List (Nat × Nat)
  | [] => [m]
  | other :: before =>
    if other.2 ≤ m.2 then m :: other :: before else other :: insertMark m before

/-- Characters with their classes, where the marks after each character are in order. `marks` are those
    since the last character, in reverse. -/
def inOrder (marks : List (Nat × Nat)) : List Nat → List (Nat × Nat)
  | [] => marks.reverse
  | n :: rest =>
    if classOf n = 0 then marks.reverse ++ (n, 0) :: inOrder [] rest
    else inOrder (insertMark (n, classOf n) marks) rest

/-! ## Putting together -/

/-- The character that two others are written as. -/
def together? (a b : Nat) : Option Nat :=
  match Hangul.together? a b with
  | some n => some n
  | none => (List.find? (fun r => r.given = [a, b]) composed).map (·.first)

/-- Puts marks and characters to the character before them where that can be done. `between` are the
    marks that stayed apart since, in reverse: they keep what has no greater class from that character. -/
def joined (base : Nat) (between : List (Nat × Nat)) : List (Nat × Nat) → List Nat
  | [] => base :: (between.reverse.map (·.1))
  | (n, k) :: rest =>
    let reaches := match between with
      | [] => true
      | (_, last) :: _ => last < k
    match if reaches then together? base n else none with
    | some whole => joined whole between rest
    | none =>
      if k = 0 then base :: (between.reverse.map (·.1)) ++ joined n [] rest
      else joined base ((n, k) :: between) rest

/-- The text put together, from marks that nothing stands before. -/
def allJoined : List (Nat × Nat) → List Nat
  | [] => []
  | (n, k) :: rest => if k = 0 then joined n [] rest else n :: allJoined rest

/-- The composed form of a text. -/
def compose (text : List Nat) : List Nat :=
  allJoined (inOrder [] (text.flatMap fun n => apart n deepest))

end VolumeDriver.Composition
