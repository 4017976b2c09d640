import VolumeDriver.Text.Base64
import VolumeDriver.Text.Utf8
set_option autoImplicit false

/-! # Sections of base64 in text

A file of certificates and keys holds sections between a line that begins one and a line that ends it,
with base64 in between; what stands outside of sections is passed over. Each line ends at a line feed or
at a carriage return. `Pem.contents?` gives the contents of the sections with one label.

A section that begins inside of another takes its place, but what was read so far is read on with it. -/

namespace VolumeDriver.Http.Pem

/-- What a line begins with that begins a section. -/
def beginMark : List UInt8 := Utf8.octets "-----BEGIN "

/-- The line that ends a section. -/
def endMark (label : List UInt8) : List UInt8 :=
  Utf8.octets "-----END " ++ label ++ Utf8.octets "-----"

/-- The octet of a dash. -/
def dash : UInt8 := 0x2D

/-- Whether an octet says nothing at the end of a line. -/
def isSilent (b : UInt8) : Bool :=
  b = 0x20 || b = 0x0D || b = 0x0A

/-- Whether an octet ends a line. -/
def endsLine (b : UInt8) : Bool :=
  b = 0x0D || b = 0x0A

/-- The lines of a file, without their ends. -/
def linesOf : List UInt8 → List (List UInt8)
  | [] => [[]]
  | b :: rest =>
    if endsLine b then [] :: linesOf rest
    else
      match linesOf rest with
      | [] => [[b]]
      | line :: lines => (b :: line) :: lines

/-- The label of a line that begins a section. Five dashes have to follow it, which may stand apart. -/
def labelOf? (line : List UInt8) : Option (List UInt8) :=
  let backwards := line.reverse
  let trailer := backwards.takeWhile fun b => b = dash || isSilent b
  if trailer.count dash = 5 then
    -- the spaces before the first of the dashes belong to the label
    let afterLabel := (trailer.reverse.dropWhile (· ≠ dash)).length
    some ((line.take (line.length - afterLabel)).drop beginMark.length)
  else none

/-- The contents of the sections with a label in some lines. `current` is the label of the section that
    the lines begin in, and `symbols` is what was read of it, in reverse. -/
def contentsFrom (wanted : List UInt8) (current : Option (List UInt8)) (symbols : List UInt8) :
    List (List UInt8) → Option (List (List UInt8))
  | [] => if current.isSome then none else some []
  | line :: lines =>
    if beginMark.isPrefixOf line then
      match labelOf? line with
      | none => none
      | some label => contentsFrom wanted (some label) symbols lines
    else
      match current with
      | none => contentsFrom wanted none symbols lines
      | some label =>
        if (endMark label).isPrefixOf line then
          match Base64.decodeLoose? symbols.reverse with
          | none => none
          | some content =>
            -- the line that ends a section of an unknown kind belongs to no section
            (contentsFrom wanted none [] lines).map fun others =>
              if label = wanted then content :: others else others
        else contentsFrom wanted current (line.reverse.dropWhile isSilent ++ symbols) lines

/-- The contents of the sections with a label in a file. There is no answer if a section does not begin,
    end or read as it should. -/
def contents? (label content : List UInt8) : Option (List (List UInt8)) :=
  contentsFrom label none [] (linesOf content)

end VolumeDriver.Http.Pem
