set_option autoImplicit false

/-! # Cutting text at a pattern

The formats of this library put fixed pieces between free ones. `dropPrefix?` takes a piece off the
front, `splitFirst?` and `splitLast?` cut around its first and last occurrence, `splitAll` cuts at
every occurrence of one character, and `replaceAll` puts another piece in the place of each
occurrence, read from left to right.

All are on lists of characters, and every one but `replaceAll` loses nothing but the pattern. -/

namespace VolumeDriver.Cut

/-- The rest of a text that begins with `pattern`. -/
def dropPrefix? : (pattern s : List Char) → Option (List Char)
  | [], s => some s
  | _ :: _, [] => none
  | p :: pattern, c :: s => if p = c then dropPrefix? pattern s else none

/-- Whether the string begins with `pattern`. -/
def startsWith (s pattern : String) : Bool :=
  (dropPrefix? pattern.toList s.toList).isSome

/-- What stands before and after the first occurrence of `pattern`. -/
def splitFirst? (pattern : List Char) : List Char → Option (List Char × List Char)
  | [] => (dropPrefix? pattern []).map (([], ·))
  | c :: s =>
    match dropPrefix? pattern (c :: s) with
    | some rest => some ([], rest)
    | none => (splitFirst? pattern s).map fun (before, after) => (c :: before, after)

/-- What stands before and after the last occurrence of `pattern`. -/
def splitLast? (pattern : List Char) : List Char → Option (List Char × List Char)
  | [] => (dropPrefix? pattern []).map (([], ·))
  | c :: s =>
    match splitLast? pattern s with
    | some (before, after) => some (c :: before, after)
    | none => (dropPrefix? pattern (c :: s)).map (([], ·))

/-- What stands before and after the first occurrence of a character; nothing stands after it if there is
    none. -/
def atFirst (mark : Char) (s : List Char) : List Char × Option (List Char) :=
  match s.span (· ≠ mark) with
  | (before, _ :: after) => (before, some after)
  | (before, []) => (before, none)

/-- The pieces of a text between the occurrences of a character; one more than occurrences. -/
def splitAll (separator : Char) : List Char → List (List Char)
  | [] => [[]]
  | c :: s =>
    if c = separator then [] :: splitAll separator s
    else
      match splitAll separator s with
      | [] => [[c]]
      | piece :: pieces => (c :: piece) :: pieces

/-- The text with `replacement` for every occurrence of `pattern`, found from left to right. A
    pattern that is empty occurs nowhere. -/
def replaceAll (pattern replacement : List Char) (s : List Char) : List Char :=
  match pattern, s with
  | [], s => s
  | _ :: _, [] => []
  | p :: pattern, c :: s =>
    match dropPrefix? (p :: pattern) (c :: s) with
    | some _ => replacement ++ replaceAll (p :: pattern) replacement (s.drop pattern.length)
    | none => c :: replaceAll (p :: pattern) replacement s
termination_by s.length
decreasing_by
  all_goals simp only [List.length_drop, List.length_cons]; omega

/-- The text without the occurrences of a character at its end. -/
def dropEnd (c : Char) (s : List Char) : List Char :=
  (s.reverse.dropWhile (· = c)).reverse

end VolumeDriver.Cut
