import VolumeDriver.Toml.Document
import VolumeDriver.Toml.Lexeme
import VolumeDriver.Toml.Scalar
set_option autoImplicit false

/-! # Reading TOML

`Toml.parse` gives the table that a text spells, or nothing if the text is not TOML. Values may lie
inside each other up to a depth. -/

namespace VolumeDriver.Toml

/-- How deep lists and tables may lie inside each other. -/
def deepest : Nat := 80

/-- A value without quotes or brackets. -/
def bare : Reader Value := fun s =>
  let (word, rest) := takeBare s
  if word = ['t', 'r', 'u', 'e'] then some (.flag true, rest)
  else if word = ['f', 'a', 'l', 's', 'e'] then some (.flag false, rest)
  else if isInteger word || isFloat word then some (.number, rest)
  else if isMoment word then some (.moment, rest)
  else none

mutual

/-- A value that may hold others down to `depth`. The fuel is for the characters. -/
def value (fuel depth : Nat) (s : List Char) : Option (Value × List Char) :=
  match fuel with
  | 0 => none
  | fuel + 1 =>
    match s with
    | '"' :: _ | '\'' :: _ => (text s).map fun (t, rest) => (.text t, rest)
    | '[' :: s =>
      match depth with
      | 0 => none
      | depth + 1 => (listItems fuel depth s).map fun (items, rest) => (.list items, rest)
    | c :: s =>
      if c = Char.ofNat 0x7B then
        match depth with
        | 0 => none
        | depth + 1 =>
          (tableMembers fuel depth [] s).map fun (members, rest) =>
            (.table (finishMembers members), rest)
      else bare (c :: s)
    | [] => none

/-- The items of a list, up to and with its closing bracket. -/
def listItems (fuel depth : Nat) (s : List Char) : Option (List Value × List Char) :=
  match fuel with
  | 0 => none
  | fuel + 1 => do
    match ← skipLines false s with
    | ']' :: rest => return ([], rest)
    | s =>
      let (item, rest) ← value fuel depth s
      match ← skipLines false rest with
      | ']' :: rest => return ([item], rest)
      | ',' :: rest =>
        let (items, rest) ← listItems fuel depth rest
        return (item :: items, rest)
      | _ => none

/-- The members of a table between braces, added to those before, up to and with its closing brace.
    Lines may end on either side of each equals sign. -/
def tableMembers (fuel depth : Nat) (members : Members) (s : List Char) :
    Option (Members × List Char) :=
  match fuel with
  | 0 => none
  | fuel + 1 => do
    match ← skipLines false s with
    | [] => none
    | c :: s =>
      if c = Char.ofNat 0x7D then return (members, s)
      else
        let (path, rest) ← key (c :: s)
        match ← skipLines false rest, path.getLast? with
        | '=' :: rest, some last =>
          let (v, rest) ← value fuel depth (← skipLines false rest)
          let members ← Members.add v true path.dropLast last members
          match ← skipLines false rest with
          | [] => none
          | c :: s =>
            if c = Char.ofNat 0x7D then return (members, s)
            else if c = ',' then tableMembers fuel depth members s
            else none
        | _, _ => none

end

/-! ## Statements -/

/-- One line's meaning, or that of several if its `Value` has several. -/
inductive Statement
  | header (path : List String)
  | itemHeader (path : List String)
  | assign (path : List String) (v : Value)

/-- The key between the brackets of a header. -/
def headerKey (closing : List Char) : Reader (List String) := fun s => do
  let (path, rest) ← key s
  if closing.isPrefixOf rest then return (path, rest.drop closing.length) else none

/-- A statement that begins with a character. -/
def statement (fuel : Nat) : Reader Statement := fun s =>
  match s with
  | '[' :: '[' :: s => (headerKey [']', ']'] s).map fun (path, rest) => (.itemHeader path, rest)
  | '[' :: s => (headerKey [']'] s).map fun (path, rest) => (.header path, rest)
  | s => do
    match ← key s with
    | (path, '=' :: rest) =>
      let (v, rest) ← value fuel deepest (skipBlanks rest)
      return (.assign path v, rest)
    | _ => none

/-- A text that is being read: the root table so far, and the table that the last header opened. -/
structure Reading where
  root : Members := []
  current : List String := []

/-- Applies a statement. -/
def Reading.apply (r : Reading) : Statement → Option Reading
  | .header path => do
    let last ← path.getLast?
    return ⟨← Members.within (Members.openTable last) path.dropLast r.root, path⟩
  | .itemHeader path => do
    let last ← path.getLast?
    return ⟨← Members.within (Members.openItem last) path.dropLast r.root, path⟩
  | .assign path v => do
    let last ← path.getLast?
    let add := Members.add v true path.dropLast last
    return { r with root := ← Members.within add r.current r.root }

/-- Reads `statement` after `statement`. -/
def statements (fuel : Nat) (r : Reading) (s : List Char) : Option Reading :=
  match fuel with
  | 0 => none
  | fuel + 1 => do
    match ← skipLines false s with
    | [] => return r
    | s =>
      let (st, rest) ← statement (2 * s.length + 2) s
      statements fuel (← r.apply st) (← finishLine rest)

/-- The table that a text spells. It may begin with a byte order mark. -/
def parse (s : List Char) : Option (List (String × Value)) := do
  let s := match s with
    | c :: rest => if c = Char.ofNat 0xFEFF then rest else s
    | [] => s
  let r ← statements (s.length + 1) {} s
  return finishMembers r.root

end VolumeDriver.Toml
