import VolumeDriver.Text.Numeral
set_option autoImplicit false

/-! # JSON values and how they are written

`Json` holds the values this program writes; objects keep their members in the order given. `render`
writes a value on one line without blanks: inside a string a quote and a backslash get a backslash,
the control characters their letter or their number, and every other character stands for itself. -/

namespace VolumeDriver

/-- A JSON value. -/
inductive Json
  | null
  | flag (b : Bool)
  | number (n : Nat)
  | text (s : String)
  | list (items : List Json)
  | object (members : List (String × Json))
  deriving Repr, BEq

namespace Json

/-- How one character stands inside a string. -/
def escape (c : Char) : List Char :=
  if c = '"' then ['\\', '"']
  else if c = '\\' then ['\\', '\\']
  else if c = '\x08' then ['\\', 'b']
  else if c = '\x0c' then ['\\', 'f']
  else if c = '\n' then ['\\', 'n']
  else if c = '\r' then ['\\', 'r']
  else if c = '\t' then ['\\', 't']
  else if c < ' ' then
    ['\\', 'u', '0', '0', Numeral.digitChar (c.toNat / 16), Numeral.digitChar (c.toNat % 16)]
  else [c]

/-- A string with its quotes, each character as `escape` has it. -/
def renderText (s : String) : List Char :=
  '"' :: s.toList.flatMap escape ++ ['"']

mutual

/-- A `Json` value on one line. -/
def render : Json → List Char
  | .null => ['n', 'u', 'l', 'l']
  | .flag true => ['t', 'r', 'u', 'e']
  | .flag false => ['f', 'a', 'l', 's', 'e']
  | .number n => Numeral.decimal n
  | .text s => renderText s
  | .list items => '[' :: renderItems items ++ [']']
  | .object members => Char.ofNat 0x7B :: renderMembers members ++ [Char.ofNat 0x7D]

/-- The items of a list, separated by commas. -/
def renderItems : List Json → List Char
  | [] => []
  | [item] => item.render
  | item :: items => item.render ++ ',' :: renderItems items

/-- The members of an object, separated by commas. -/
def renderMembers : List (String × Json) → List Char
  | [] => []
  | [(key, value)] => renderText key ++ ':' :: value.render
  | (key, value) :: members =>
    renderText key ++ ':' :: (value.render ++ ',' :: renderMembers members)

end

/-- A value as a string on one line. -/
def toText (j : Json) : String :=
  String.ofList j.render

end Json

end VolumeDriver
