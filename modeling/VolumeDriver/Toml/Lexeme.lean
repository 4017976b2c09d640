import VolumeDriver.Text.Numeral
set_option autoImplicit false

/-! # The small pieces of TOML

Blanks, comments, line ends, strings and keys. A reader takes the characters from its piece on and
gives what the piece says and the characters after it; there is no answer if the text is not TOML. -/

namespace VolumeDriver.Toml

/-- Reads a piece off the front. -/
abbrev Reader (α : Type) : Type := List Char → Option (α × List Char)

/-- Blanks within a line. -/
def isBlank (c : Char) : Bool :=
  c = ' ' || c = '\t'

/-- Characters that may stand unescaped in strings and comments. -/
def isPlain (c : Char) : Bool :=
  c = '\t' || (' ' ≤ c && c ≠ '\x7f')

/-- Passes over blanks. -/
def skipBlanks (s : List Char) : List Char :=
  s.dropWhile isBlank

/-- Passes over the end of a line. -/
def lineEnd? : List Char → Option (List Char)
  | '\n' :: s => some s
  | '\r' :: '\n' :: s => some s
  | _ => none

/-- Passes over a comment if there is one, up to the end of its line. -/
def skipComment : List Char → Option (List Char)
  | '#' :: s => skipPlain s
  | s => some s
where
  /-- Passes over the characters of a comment. -/
  skipPlain : List Char → Option (List Char)
    | [] => some []
    | c :: s => if isPlain c then skipPlain s else some (c :: s)

/-- Passes over blanks and a comment (`skipComment`) to the end of the line or of the text. -/
def finishLine (s : List Char) : Option (List Char) := do
  match ← skipComment (skipBlanks s) with
  | [] => return []
  | s => lineEnd? s

/-- Passes over blanks, comments and line ends; `inComment` tells whether a comment has begun. -/
def skipLines (inComment : Bool) : List Char → Option (List Char)
  | [] => some []
  | '\r' :: '\n' :: s => skipLines false s
  | c :: s =>
    if c = '\n' then skipLines false s
    else if inComment then if isPlain c then skipLines true s else none
    else if isBlank c then skipLines false s
    else if c = '#' then skipLines true s
    else some (c :: s)

/-! ## Strings -/

/-- The character with a code point. -/
def charOf? (n : Nat) : Option Char :=
  if n.isValidChar then some (Char.ofNat n) else none

/-- What a letter stands for after a backslash. -/
def escapeOf? : Char → Option Char
  | 'b' => some '\x08'
  | 't' => some '\t'
  | 'n' => some '\n'
  | 'f' => some '\x0c'
  | 'r' => some '\r'
  | 'e' => some '\x1b'
  | '"' => some '"'
  | '\\' => some '\\'
  | _ => none

/-- How many hexadecimal digits follow a letter after a backslash. -/
def digitsAfter? : Char → Option Nat
  | 'x' => some 2
  | 'u' => some 4
  | 'U' => some 8
  | _ => none

/-- The character that an escape stands for, from after its backslash. -/
def escape? : Reader Char
  | [] => none
  | c :: s =>
    match digitsAfter? c with
    | none => (escapeOf? c).map (·, s)
    | some count =>
      if s.length < count then none
      else do
        let n ← Numeral.valueIn? 16 (s.take count)
        return (← charOf? n, s.drop count)

/-- Adds characters before what is read of a string. -/
def before (chars : List Char) : Option (List Char × List Char) → Option (List Char × List Char)
  | some (text, rest) => some (chars ++ text, rest)
  | none => none

/-- A string between double quotes, from after the opening one. `skip` more characters belong to an
    escape that was read already. -/
def basicText (skip : Nat) : Reader (List Char)
  | [] => none
  | c :: s =>
    match skip with
    | skip + 1 => basicText skip s
    | 0 =>
      if c = '"' then some ([], s)
      else if c = '\\' then
        match escape? s with
        | some (e, rest) => before [e] (basicText (s.length - rest.length) s)
        | none => none
      else if isPlain c then before [c] (basicText 0 s)
      else none

/-- A string between single quotes, from after the opening one. Nothing is an escape in it. -/
def literalText : Reader (List Char)
  | [] => none
  | c :: s =>
    if c = '\'' then some ([], s)
    else if isPlain c then before [c] (literalText s)
    else none

/-- The quotes at the end of a string of several lines: what follows them, with up to two quotes that
    belong to the string before. -/
def closing? (quote : Char) (s : List Char) : Option (List Char × List Char) :=
  let count := (s.takeWhile (· = quote)).length
  if count < 3 then none
  else
    let inside := min (count - 3) 2
    some (List.replicate inside quote, s.drop (inside + 3))

/-- Whether nothing but blanks is left of the line. -/
def endsLine (s : List Char) : Bool :=
  (lineEnd? (skipBlanks s)).isSome

/-- The text without the line end that it may begin with. -/
def dropLineEnd (s : List Char) : List Char :=
  (lineEnd? s).getD s

/-- A string of several lines between triple double quotes, from after the opening ones. While
    `folding`, blanks and line ends are dropped; a backslash at the end of a line begins that. -/
def longBasicText (folding : Bool) (skip : Nat) : Reader (List Char)
  | [] => none
  | c :: s =>
    match skip with
    | skip + 1 => longBasicText folding skip s
    | 0 =>
      if c = '\n' ∨ (c = '\r' ∧ s.head? = some '\n') ∨ (folding ∧ isBlank c) then
        before (if folding then [] else [c]) (longBasicText folding 0 s)
      else
        match closing? '"' (c :: s) with
        | some closed => some closed
        | none =>
          if c = '\\' then
            if endsLine s then longBasicText true 0 s
            else
              match escape? s with
              | some (e, rest) => before [e] (longBasicText false (s.length - rest.length) s)
              | none => none
          else if isPlain c then before [c] (longBasicText false 0 s)
          else none

/-- A string of several lines between triple single quotes, from after the opening ones. -/
def longLiteralText : Reader (List Char)
  | [] => none
  | c :: s =>
    match closing? '\'' (c :: s) with
    | some closed => some closed
    | none =>
      if isPlain c ∨ c = '\n' ∨ (c = '\r' ∧ s.head? = some '\n') then
        before [c] (longLiteralText s)
      else none

/-- A string, from its quotes on. -/
def text : Reader String := fun s =>
  let chars := match s with
    | '"' :: '"' :: '"' :: s => longBasicText false 0 (dropLineEnd s)
    | '\'' :: '\'' :: '\'' :: s => longLiteralText (dropLineEnd s)
    | '"' :: s => basicText 0 s
    | '\'' :: s => literalText s
    | _ => none
  chars.map fun (text, rest) => (String.ofList text, rest)

/-! ## Keys -/

/-- Characters of keys without quotes. -/
def isKeyChar (c : Char) : Bool :=
  ('a' ≤ c && c ≤ 'z') || ('A' ≤ c && c ≤ 'Z') || ('0' ≤ c && c ≤ '9') || c = '-' || c = '_'

/-- One part of a key. -/
def keyPart : Reader String
  | '"' :: s => (basicText 0 s).map fun (text, rest) => (String.ofList text, rest)
  | '\'' :: s => (literalText s).map fun (text, rest) => (String.ofList text, rest)
  | s =>
    let part := s.takeWhile isKeyChar
    if part.isEmpty then none else some (String.ofList part, s.dropWhile isKeyChar)

/-- The parts of a key between dots, and the text after them and after blanks; of at most `fuel`
    parts. -/
def keyParts (fuel : Nat) : Reader (List String) := fun s =>
  match fuel with
  | 0 => none
  | fuel + 1 => do
    let (part, rest) ← keyPart (skipBlanks s)
    match skipBlanks rest with
    | '.' :: rest =>
      let (parts, rest) ← keyParts fuel rest
      return (part :: parts, rest)
    | rest => return ([part], rest)

/-- How many parts a key may have. -/
def mostParts : Nat := 80

/-- A key of `mostParts` parts at most. -/
def key : Reader (List String) :=
  keyParts mostParts

end VolumeDriver.Toml
