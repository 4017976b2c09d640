set_option autoImplicit false

/-! # Text for a terminal, without its control sequences

A terminal takes some characters as orders: control characters by themselves, and sequences that begin
with the escape character and have a grammar of their own. `Terminal.plain` keeps the text alone. A
line end, tab or blank is text, also in the middle of a sequence that a terminal would obey it in; the
sequence is over then. -/

namespace VolumeDriver.Terminal

/-- Where in a sequence a character stands. -/
inductive Place
  | text
  /-- after the escape character -/
  | escape
  /-- after the escape character and a character that asks for more -/
  | intermediate
  /-- in a control sequence, up to the letter that ends it -/
  | control
  /-- in a command to the terminal's system, which a bell ends -/
  | command
  /-- in a string, which only another sequence or a cancelling character ends -/
  | string
  deriving DecidableEq, Repr

/-- Blanks that a terminal acts on, and the space. -/
def isBlank (c : Char) : Bool :=
  c = '\t' || c = '\n' || c = '\x0c' || c = '\r' || c = ' '

/-- Cancels every sequence. -/
def isCancel (c : Char) : Bool :=
  c = '\x18' || c = '\x1a'

/-- Whether a character is text where it stands. -/
def Place.keeps (p : Place) (c : Char) : Bool :=
  '\x80' ≤ c ||
    match p with
    | text => isBlank c || (' ' < c && c < '\x7f')
    | escape | intermediate | control => isBlank c && c ≠ ' '
    | command | string => false

/-- The place after a character that is not text. -/
def Place.next (p : Place) (c : Char) : Place :=
  if c = '\x1b' then escape
  else if isCancel c then text
  else
    match p with
    | text => text
    | escape =>
      if c < ' ' ∨ c = '\x7f' then escape
      else if c < '0' then intermediate
      else if c = '[' then control
      else if c = ']' then command
      else if c = 'P' ∨ c = 'X' ∨ c = '^' ∨ c = '_' then string
      else text
    | intermediate => if c < '0' ∨ c = '\x7f' then intermediate else text
    | control => if c < '@' ∨ c = '\x7f' then control else text
    | command => if c = '\x07' then text else command
    | string => string

/-- The text from a place on. -/
def plainFrom (p : Place) : List Char → List Char
  | [] => []
  | c :: s => if p.keeps c then c :: plainFrom .text s else plainFrom (p.next c) s

/-- The text without control characters and sequences. -/
def plain (s : String) : String :=
  String.ofList (plainFrom .text s.toList)

end VolumeDriver.Terminal
