import VolumeDriver.Domain.MappingData
import VolumeDriver.Text.Composition
set_option autoImplicit false

/-! # The form in which domain names are looked up

In what `mapText?` makes of a text, letters are written small, variants of characters as the plain ones, and
everything in composed form. Some characters are left out, and some are not allowed. A text that mapping
does not change is in the form in which names are looked up. -/

namespace VolumeDriver.Domain

/-- What a character is written as; not every character is allowed. -/
def mapChar? (n : Nat) : Option (List Nat) :=
  match mapped.find? n with
  | some r => some (r.image n)
  | none =>
    if ignored.contains n then some []
    else if disallowed.contains n then none
    else some [n]

/-- A text in the form in which names are looked up, character by character with `mapChar?` and then
    composed. -/
def mapText? (text : List Nat) : Option (List Nat) := do
  return Composition.compose (← text.mapM mapChar?).flatten

/-- Whether `mapText?` leaves a text as it is. -/
def isMapped (text : List Nat) : Bool :=
  mapText? text = some text

end VolumeDriver.Domain
