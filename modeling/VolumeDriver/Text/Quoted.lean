import VolumeDriver.Text.Numeral
import VolumeDriver.Text.Unprintable
set_option autoImplicit false

/-! # Quoted text

Messages show the text they are about between double quotes, so that its ends and its odd characters
can be seen: quotes and backslashes get a backslash, tab, line feed, carriage return and the null
character their letter, and every other character without a mark of its own its number. -/

namespace VolumeDriver.Quoted

/-- How one character stands between the quotes. -/
def escape (c : Char) : List Char :=
  if c = '\x00' then ['\\', '0']
  else if c = '\t' then ['\\', 't']
  else if c = '\r' then ['\\', 'r']
  else if c = '\n' then ['\\', 'n']
  else if c = '\\' then ['\\', '\\']
  else if c = '"' then ['\\', '"']
  else if Unprintable.isUnprintable c then
    ['\\', 'u', Char.ofNat 0x7B] ++ Numeral.hex c.toNat ++ [Char.ofNat 0x7D]
  else [c]

/-- A text between double quotes, each character as `escape` has it. -/
def quote (s : String) : String :=
  String.ofList ('"' :: s.toList.flatMap escape ++ ['"'])

/-- Several texts, each in a `quote`, in brackets. -/
def quoteAll (ss : List String) : String :=
  "[" ++ ", ".intercalate (ss.map quote) ++ "]"

end VolumeDriver.Quoted
