import VolumeDriver.Text.Cut
set_option autoImplicit false

/-! # Names in ASCII as they are looked up

Names of hosts are looked up (`canBeLookedUp`) only if their labels are made of letters, digits, dashes and
underscores and are neither empty nor too long. Certificates are for names that are stricter still
(`mayBeCertified`). A name may end in a dot. -/

namespace VolumeDriver.Domain.Lookup

/-- The greatest length of a label. -/
def longestLabel : Nat := 63

/-- The greatest length of a domain name. -/
def longestName : Nat := 253

/-- Whether a character may stand in a label. -/
def isLabelChar (c : Char) : Bool :=
  c.isAlphanum || c = '-' || c = '_'

/-- Whether a label is neither empty nor longer than `longestLabel`, and of characters that are an
    `isLabelChar`. -/
def isLabel (label : List Char) : Bool :=
  !label.isEmpty && label.length ≤ longestLabel && label.all isLabelChar

/-- A name without the dot that may end it. -/
def dropDot (name : List Char) : List Char :=
  if name.getLast? = some '.' then name.dropLast else name

/-- Whether a name can be looked up. The dot alone is the name of all names. -/
def canBeLookedUp (name : List Char) : Bool :=
  name = ['.'] ||
    ((dropDot name).length ≤ longestName && name.head? ≠ some '-' &&
      (Cut.splitAll '.' (dropDot name)).all isLabel)

/-- Whether a name may be that of a server with a certificate. -/
def mayBeCertified (name : List Char) : Bool :=
  name.length ≤ longestName && (Cut.splitAll '.' (dropDot name)).all fun label =>
    isLabel label && label.head? ≠ some '-' && label.getLast? ≠ some '-'

end VolumeDriver.Domain.Lookup
