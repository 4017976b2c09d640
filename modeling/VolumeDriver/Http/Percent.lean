import VolumeDriver.Text.Numeral
import VolumeDriver.Text.Utf8
set_option autoImplicit false

/-! # Percent-encoding

Where a URL gives a character a meaning of its own, or has no place for it, the character's octets are
written as a percent sign and two hexadecimal digits each. Which characters stay as they are depends on
the part of the URL. Queries made of names and values use a form of their own (`form`), in which a space
is a plus sign. -/

namespace VolumeDriver.Http.Percent

/-- An octet as a percent sign and its digits. -/
def octet (b : UInt8) : List Char :=
  ['%', (Numeral.digitChar (b.toNat / 16)).toUpper, (Numeral.digitChar (b.toNat % 16)).toUpper]

/-- A character, as it is or octet by octet. -/
def encodeChar (stays : Char → Bool) (c : Char) : List Char :=
  if stays c then [c] else (Utf8.encodeChar c).flatMap octet

/-- A text in which only some characters stay as they are. -/
def encode (stays : Char → Bool) (s : List Char) : List Char :=
  s.flatMap (encodeChar stays)

/-- The octets of a text, each percent sign with two digits read as one octet. -/
def decode : List Char → List UInt8
  | [] => []
  | '%' :: a :: b :: s =>
    match Numeral.hexDigit? a, Numeral.hexDigit? b with
    | some a, some b => UInt8.ofNat (16 * a + b) :: decode s
    | _, _ => 0x25 :: decode (a :: b :: s)
  | c :: s => Utf8.encodeChar c ++ decode s

/-- The text that a percent-encoded text stands for, if its octets are UTF-8. -/
def decodeText? (s : List Char) : Option (List Char) :=
  (Utf8.decode (decode s)).toOption

/-! ## The parts of a URL -/

/-- Whether a character is of ASCII and leaves a mark. -/
def isMark (c : Char) : Bool :=
  ' ' < c && c ≤ '~'

/-- Whether a character stays as it is where a part of a URL is kept as it is written. -/
def staysPlain (c : Char) : Bool :=
  ' ' ≤ c && c ≤ '~'

/-- Whether a character stays as it is in a path. -/
def staysInPath (c : Char) : Bool :=
  isMark c && !(['"', '#', '<', '>', '?', '`', Char.ofNat 0x7B, Char.ofNat 0x7D].contains c)

/-- Whether a character stays as it is in a name or a password. -/
def staysInCredentials (c : Char) : Bool :=
  staysInPath c && !(['/', ':', ';', '=', '@', '[', '\\', ']', '^', '|'].contains c)

/-- Whether a character stays as it is in a query. -/
def staysInQuery (c : Char) : Bool :=
  isMark c && !(['"', '#', '<', '>'].contains c)

/-- Whether a character stays as it is in a query that a server is sent. -/
def staysInServerQuery (c : Char) : Bool :=
  staysInQuery c && c ≠ '\''

/-- Whether a character stays as it is in a fragment. -/
def staysInFragment (c : Char) : Bool :=
  isMark c && !(['"', '<', '>', '`'].contains c)

/-! ## Forms -/

/-- Whether a character stays as it is in a form. -/
def staysInForm (c : Char) : Bool :=
  c.isAlphanum || ['*', '-', '.', '_'].contains c

/-- One character of a form. -/
def formChar (c : Char) : List Char :=
  if c = ' ' then ['+'] else encodeChar staysInForm c

/-- A name or a value of a form. -/
def formText (s : String) : List Char :=
  s.toList.flatMap formChar

/-- Names and values as a query. -/
def form (pairs : List (String × String)) : String :=
  String.ofList (['&'].intercalate (pairs.map fun (name, value) =>
    formText name ++ '=' :: formText value))

end VolumeDriver.Http.Percent
