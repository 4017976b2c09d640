import VolumeDriver.Dictionary
import VolumeDriver.Json.Skip
import VolumeDriver.Json.Value
set_option autoImplicit false

/-! # Codecs: one value, written and read

A `Codec` says how the values of a type are written as JSON and how they are read back. Reading is
strict about kinds — a number is never taken for a string — and meets the first fault of the text
from left to right, a wrong kind as soon as it is seen.

Lists and objects are read by `readItems` and `readMembers`. What is wrong with a list or an object as
a whole, such as a member that occurs twice, is reported where the list or object could have been
closed. -/

namespace VolumeDriver.Json

/-- How the values of a type are written as `Json` and read back. -/
structure Codec (α : Type) where
  write : α → Json
  read : Reader α

namespace Codec

variable {α : Type}

/-- The whole text as one value of the `Codec`. -/
def decode (c : Codec α) (text : List UInt8) : Except Fault α :=
  match c.read text with
  | .error f => .error f
  | .ok (a, rest) =>
    match skipBlanks rest with
    | [] => .ok a
    | b :: s => .error (.atNext .trailingCharacters (b :: s))

/-- A value as text on one line, by `Json.toText`. -/
def encode (c : Codec α) (a : α) : String :=
  (c.write a).toText

end Codec

/-! ## Values of the wrong kind -/

/-- The fault of a value that begins with `b` where something else is expected. A value without
    pieces is read first, so its own faults come first and the place is after it; the place of a list
    or an object is before it. -/
def wrongType (expected : String) (b : UInt8) (s : List UInt8) : Fault :=
  let word (rest : List UInt8) (found : Found) : Fault :=
    match skipWord rest s with
    | .ok s => .here (.invalidType found expected) s
    | .error f => f
  let number (r : Except Fault (Number × List UInt8)) : Fault :=
    match r with
    | .ok (n, s) => .here (.invalidType n.found expected) s
    | .error f => f
  if b = 0x6E then word restOfNull .null
  else if b = 0x74 then word restOfTrue (.flag true)
  else if b = 0x66 then word restOfFalse (.flag false)
  else if b = 0x2D then number (readNumber false s)
  else if isDigit b then number (readNumber true (b :: s))
  else if b = 0x22 then
    match readText s with
    | .ok (content, s) => .here (.invalidType (.text content) expected) s
    | .error f => f
  else if b = 0x5B then .here (.invalidType .sequence expected) (b :: s)
  else if b = 0x7B then .here (.invalidType .map expected) (b :: s)
  else .atNext .expectedValue (b :: s)

/-- Reads the first octet that is not blank and goes on with it. -/
def afterBlanks {α : Type} (read : UInt8 → Reader α) : Reader α := fun s =>
  match skipBlanks s with
  | [] => .error (.atNext .unfinishedValue [])
  | b :: t => read b t

/-! ## Values without pieces -/

/-- Strings. -/
def Codec.text : Codec String where
  write := .text
  read := afterBlanks fun b s =>
    if b = 0x22 then readText s else .error (wrongType "a string" b s)

/-- Truth values. -/
def Codec.flag : Codec Bool where
  write := .flag
  read := afterBlanks fun b s =>
    if b = 0x74 then (true, ·) <$> skipWord restOfTrue s
    else if b = 0x66 then (false, ·) <$> skipWord restOfFalse s
    else .error (wrongType "a boolean" b s)

/-- A number as a natural number up to `max`, called `name`. -/
def naturalUpTo (max : Nat) (name : String) :
    Except Fault (Number × List UInt8) → Except Fault (Nat × List UInt8)
  | .ok (.natural n, s) =>
    if n ≤ max then .ok (n, s) else .error (.here (.invalidValue (.integer n) name) s)
  | .ok (.negative n, s) => .error (.here (.invalidValue (Number.negative n).found name) s)
  | .ok (.fraction f, s) => .error (.here (.invalidType (Number.fraction f).found name) s)
  | .error f => .error f

/-- Natural numbers of sixteen bits. -/
def Codec.word16 : Codec UInt16 where
  write n := .number n.toNat
  read := afterBlanks fun b s =>
    let word (r : Except Fault (Number × List UInt8)) : Except Fault (UInt16 × List UInt8) :=
      (fun (n, rest) => (UInt16.ofNat n, rest)) <$> naturalUpTo 65535 "u16" r
    if b = 0x2D then word (readNumber false s)
    else if isDigit b then word (readNumber true (b :: s))
    else .error (wrongType "u16" b s)

/-- A value that may be missing, which is written `null`. -/
def Codec.optional {α : Type} (c : Codec α) : Codec (Option α) where
  write
    | none => .null
    | some a => c.write a
  read := fun s =>
    match skipBlanks s with
    | [] => (fun (a, rest) => (some a, rest)) <$> c.read []
    | b :: t =>
      if b = 0x6E then (none, ·) <$> skipWord restOfNull t
      else (fun (a, rest) => (some a, rest)) <$> c.read (b :: t)

/-- A type seen through another one that has a `Codec`. -/
def Codec.through {α β : Type} (c : Codec α) (forth : β → α) (back : α → β) : Codec β where
  write b := c.write (forth b)
  read s := (fun (a, rest) => (back a, rest)) <$> c.read s

/-! ## Lists -/

/-- What follows the opening bracket or an item of a list: whether another item comes, which then
    begins the octets returned; the closing bracket is left unread. -/
def nextItem (first : Bool) (s : List UInt8) : Except Fault (Bool × List UInt8) :=
  match skipBlanks s with
  | [] => .error (.atNext .unfinishedList [])
  | b :: t =>
    if b = 0x5D then .ok (false, b :: t)
    else if first then .ok (true, b :: t)
    else if b = 0x2C then
      match skipBlanks t with
      | [] => .error (.atNext .unfinishedValue [])
      | c :: u => if c = 0x5D then .error (.atNext .trailingComma (c :: u)) else .ok (true, c :: u)
    else .error (.atNext .expectedListComma (b :: t))

/-- The items of a list, up to its closing bracket, with `nextItem` before each. A reader of items that
    reads nothing would go on for ever and is stopped. -/
def readItems {α : Type} (read : Reader α) (first : Bool) (s : List UInt8) :
    Except Fault (List α × List UInt8) :=
  match nextItem first s with
  | .error f => .error f
  | .ok (false, rest) => .ok ([], rest)
  | .ok (true, t) =>
    match read t with
    | .error f => .error f
    | .ok (a, rest) =>
      if rest.length < s.length then
        match readItems read false rest with
        | .error f => .error f
        | .ok (more, rest) => .ok (a :: more, rest)
      else .error (.here .expectedValue rest)
termination_by s.length

/-- Lists. -/
def Codec.list {α : Type} (c : Codec α) : Codec (List α) where
  write l := .list (l.map c.write)
  read := afterBlanks fun b s =>
    if b = 0x5B then
      match readItems c.read true s with
      | .error f => .error f
      | .ok (items, rest) => .ok (items, rest.drop 1)
    else .error (wrongType "a sequence" b s)

/-! ## Objects -/

/-- The octets after the bracket that closes an object, if it stands next, and otherwise those from
    the next octet that is not blank. -/
def afterObject (s : List UInt8) : List UInt8 :=
  match skipBlanks s with
  | [] => []
  | b :: t => if b = 0x7D then t else b :: t

/-- What follows the opening brace or a member of an object: whether another member comes, whose key
    then begins after its quote at the octets returned; the closing brace is left unread. -/
def nextMember (first : Bool) (s : List UInt8) : Except Fault (Bool × List UInt8) :=
  match skipBlanks s with
  | [] => .error (.atNext .unfinishedObject [])
  | b :: t =>
    if b = 0x7D then .ok (false, b :: t)
    else if first then
      if b = 0x22 then .ok (true, t) else .error (.atNext .keyNotText (b :: t))
    else if b = 0x2C then
      match skipBlanks t with
      | [] => .error (.atNext .unfinishedValue [])
      | c :: u =>
        if c = 0x22 then .ok (true, u)
        else if c = 0x7D then .error (.atNext .trailingComma (c :: u))
        else .error (.atNext .keyNotText (c :: u))
    else .error (.atNext .expectedObjectComma (b :: t))

/-- Passes over the colon after a key. -/
def skipColon (s : List UInt8) : Except Fault (List UInt8) :=
  match skipBlanks s with
  | [] => .error (.atNext .unfinishedObject [])
  | b :: t => if b = 0x3A then .ok t else .error (.atNext .expectedColon (b :: t))

/-- The members of an object, up to its closing brace, gathered from `acc` on. `member acc key` reads
    the value of a key into what has been gathered, or says why the key may not occur. -/
def readMembers {α : Type} (member : α → String → Except Cause (Reader α)) (first : Bool) (acc : α)
    (s : List UInt8) : Except Fault (α × List UInt8) :=
  match nextMember first s with
  | .error f => .error f
  | .ok (false, rest) => .ok (acc, rest)
  | .ok (true, t) =>
    match readText t with
    | .error f => .error f
    | .ok (key, u) =>
      match member acc key with
      | .error cause => .error (.here cause (afterObject u))
      | .ok read =>
        match skipColon u with
        | .error f => .error f
        | .ok v =>
          match read v with
          | .error f => .error f
          | .ok (acc, rest) =>
            if rest.length < s.length then readMembers member false acc rest
            else .error (.here .expectedValue rest)
termination_by s.length

/-- A `Dictionary`, as an object; of two members with one key the later one counts. -/
def Codec.dictionary {α : Type} (c : Codec α) : Codec (Dictionary α) where
  write d := .object (d.entries.map fun (key, a) => (key, c.write a))
  read := afterBlanks fun b s =>
    if b = 0x7B then
      match readMembers
          (fun d key => .ok fun s => (fun (a, rest) => (Dictionary.insert d key a, rest)) <$> c.read s)
          true Dictionary.empty s with
      | .error f => .error f
      | .ok (d, rest) => .ok (d, rest.drop 1)
    else .error (wrongType "a map" b s)

/-! ## Choices -/

/-- The value that a name stands for. -/
def readChoice {α : Type} (known : List (String × α)) : Reader α := fun s =>
  match readText s with
  | .error f => .error f
  | .ok (name, rest) =>
    match Dictionary.lookup name known with
    | some a => .ok (a, rest)
    | none => .error (.here (.unknownVariant name (known.map (·.1))) rest)

/-- One of several values, written by its name. It may also be read from an object whose only member
    has the name as its key and `null` as its value. -/
def Codec.choice {α : Type} (known : List (String × α)) (name : α → String) : Codec α where
  write a := .text (name a)
  read := afterBlanks fun b s =>
    if b = 0x22 then readChoice known s
    else if b = 0x7B then do
      let (a, s) ← afterBlanks
        (fun b s =>
          if b = 0x22 then readChoice known s else .error (wrongType "variant identifier" b s)) s
      let s ← skipColon s
      let (_, s) ← afterBlanks
        (fun b s =>
          if b = 0x6E then ((), ·) <$> skipWord restOfNull s else .error (wrongType "unit" b s)) s
      match skipBlanks s with
      | [] => throw (.here .unfinishedObject [])
      | b :: t => if b = 0x7D then return (a, t) else throw (.here .expectedValue (b :: t))
    else .error (.atNext .expectedValue (b :: s))

end VolumeDriver.Json
