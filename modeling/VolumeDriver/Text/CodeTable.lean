import VolumeDriver.Text.Cut
import VolumeDriver.Text.Numeral
set_option autoImplicit false

/-! # Tables over code points

What a standard says of characters is kept as text: entries between spaces, in ascending order, each
for a run of code points in hexadecimal. `300` is one of them, `300-36F` is all from the first to the
last, and `100-12E/2` is every second one. What an entry gives its characters follows an equals sign:
code points with commas between them.

`CodeTable.read` reads such text; `contains` and `find?` look a code point up. -/

namespace VolumeDriver

/-- An entry of a table. -/
structure CodeRun where
  first : Nat
  last : Nat
  /-- the distance from one code point of the run to the next -/
  step : Nat
  /-- what the entry gives -/
  given : List Nat
  deriving DecidableEq, Repr

namespace CodeRun

/-- Whether a code point is one of the run. -/
def contains (r : CodeRun) (n : Nat) : Bool :=
  r.first ≤ n && n ≤ r.last && (n - r.first) % r.step = 0

/-- What a code point of the run is mapped to. A run that gives a single code point gives it to its first
    one, and the others are moved by as much. -/
def image (r : CodeRun) (n : Nat) : List Nat :=
  match r.given with
  | [target] => [target + (n - r.first)]
  | given => given

/-- The entry that a text spells. -/
def ofText? (s : List Char) : Option CodeRun := do
  let (codes, given) := Cut.atFirst '=' s
  let (range, step) := Cut.atFirst '/' codes
  let (first, last) := Cut.atFirst '-' range
  return {
    first := ← Numeral.valueIn? 16 first
    last := ← Numeral.valueIn? 16 (last.getD first)
    step := ← Numeral.valueIn? 16 (step.getD ['1'])
    given := ← ((given.map (Cut.splitAll ',')).getD []).mapM (Numeral.valueIn? 16) }

end CodeRun

/-- A table over code points. -/
abbrev CodeTable : Type := List CodeRun

namespace CodeTable

/-- The table that lines of text spell. -/
def read (lines : List String) : CodeTable :=
  lines.flatMap fun line => (Cut.splitAll ' ' line.toList).filterMap CodeRun.ofText?

/-- The entry for a code point. Entries ascend, so none is left once one begins beyond it. -/
def find? (t : CodeTable) (n : Nat) : Option CodeRun :=
  match t with
  | [] => none
  | r :: rest =>
    if n < r.first then none
    else if r.contains n then some r
    else find? rest n

/-- Whether there is an entry for a code point. -/
def contains (t : CodeTable) (n : Nat) : Bool :=
  (t.find? n).isSome

end CodeTable

end VolumeDriver
