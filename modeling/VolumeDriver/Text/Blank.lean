import VolumeDriver.Text.Cut
set_option autoImplicit false

/-! # Blank characters, and cutting text at them

Three cuts are used on text that people and tools write: the ends trimmed (`trim`), the maximal runs
of non-blank characters (`words`), and the lines (`lines`). Blank means the `White_Space` property of
the character database, so no-break and ideographic spaces count and the zero-width space does not.

All three work on lists of characters; `Blank.trimmed` is `trim` on strings. -/

namespace VolumeDriver.Blank

/-- The characters with the `White_Space` property. -/
def isBlank (c : Char) : Bool :=
  let n := c.toNat
  (0x9 ≤ n && n ≤ 0xD) || n == 0x20 || n == 0x85 || n == 0xA0 || n == 0x1680 ||
    (0x2000 ≤ n && n ≤ 0x200A) || n == 0x2028 || n == 0x2029 || n == 0x202F || n == 0x205F ||
    n == 0x3000

/-- The text without the blanks at either end. -/
def trim (s : List Char) : List Char :=
  ((s.dropWhile isBlank).reverse.dropWhile isBlank).reverse

/-- `trim` on strings. -/
def trimmed (s : String) : String :=
  String.ofList (trim s.toList)

/-- Whether nothing but blanks (`isBlank`) is in the text. -/
def isBlankText (s : String) : Bool :=
  s.toList.all isBlank

/-! ## Words -/

/-- The pieces of a text between blanks; one more than blanks. -/
def pieces : List Char → List (List Char)
  | [] => [[]]
  | c :: s =>
    if isBlank c then [] :: pieces s
    else
      match pieces s with
      | [] => [[c]]
      | piece :: rest => (c :: piece) :: rest

/-- The maximal runs of characters that are not blank, from left to right: the `pieces` that are not
    empty. -/
def words (s : List Char) : List (List Char) :=
  (pieces s).filter (· ≠ [])

/-! ## Lines -/

/-- A carriage return that stands before the line feed belongs to the line's end. -/
def dropReturn (line : List Char) : List Char :=
  if line.getLast? = some '\r' then line.dropLast else line

/-- The lines that pieces between line feeds make. -/
def linesOf : List (List Char) → List (List Char)
  | [] => []
  | [last] => if last.isEmpty then [] else [last]
  | line :: rest => dropReturn line :: linesOf rest

/-- The lines of a text. A line feed, with a carriage return before it or not, ends a line, and the
    text after the last one is a line only if it is not empty. -/
def lines (s : List Char) : List (List Char) :=
  linesOf (Cut.splitAll '\n' s)

end VolumeDriver.Blank
