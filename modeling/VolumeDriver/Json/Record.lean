import VolumeDriver.Json.Codec
set_option autoImplicit false

/-! # Records

A record is described by its `Fields`: the name and codec of each, in order. It is written as an object
with one member a field, but for the fields whose value says that they are left out. It is read from
an object, whose members may stand in any order and may include others, which are passed over; or from
a list of the values in the order of the fields. A field without a value for absence is required.

The values of a record's fields are a `Row`, one value for each type of a list of types; while a
record is read, the row holds an option for each. `Fields.codec` joins rows to the type they stand
for. -/

namespace VolumeDriver.Json

/-- One field of a record. -/
structure Field (α : Type) where
  name : String
  codec : Codec α
  /-- the value of a field that is missing; none if the field is required -/
  absent : Option α
  /-- the values that are not written -/
  omitted : α → Bool

/-- A `Field` that must be present. -/
def Field.required {α : Type} (name : String) (codec : Codec α) : Field α :=
  ⟨name, codec, none, fun _ => false⟩

/-- A `Field` that is always written and may be missing when read. -/
def Field.defaulted {α : Type} (name : String) (codec : Codec α) (absent : α) : Field α :=
  ⟨name, codec, some absent, fun _ => false⟩

/-- A `Field` that may be missing, and is left out when it is. -/
def Field.whenPresent {α : Type} (name : String) (codec : Codec α) : Field (Option α) :=
  ⟨name, codec.optional, some none, Option.isNone⟩

/-- A truth value as a `Field` that is left out when it is false. -/
def Field.whenTrue (name : String) : Field Bool :=
  ⟨name, .flag, some false, (!·)⟩

/-- The fields of a record whose values have the types `ts`. -/
inductive Fields : List Type → Type 1
  | nil : Fields []
  | cons {t : Type} {ts : List Type} (field : Field t) (fields : Fields ts) : Fields (t :: ts)

/-- One value `f t` for each type `t` of a list. -/
def Row (f : Type → Type) : List Type → Type
  | [] => Unit
  | t :: ts => f t × Row f ts

/-- A row with nothing in it yet. -/
def Row.blank : (ts : List Type) → Row Option ts
  | [] => ()
  | _ :: ts => (none, Row.blank ts)

namespace Fields

/-- The number of fields. -/
def count {ts : List Type} : Fields ts → Nat
  | .nil => 0
  | .cons _ fields => fields.count + 1

/-- The members of a record, as its `Fields` write them. -/
def write {ts : List Type} : Fields ts → Row Id ts → List (String × Json)
  | .nil, _ => []
  | .cons field fields, (a, row) =>
    if field.omitted a then fields.write row
    else (field.name, field.codec.write a) :: fields.write row

/-- How the member `key` is read into the row: a field is read once, and what is no field is passed
    over. -/
def member {ts : List Type} : Fields ts → Row Option ts → String → Except Cause (Reader (Row Option ts))
  | .nil, _, _ => .ok fun s => ((), ·) <$> skipValue s
  | .cons field fields, (slot, row), key =>
    if key = field.name then
      if slot.isSome then .error (.duplicateField field.name)
      else .ok fun s => (fun (a, rest) => ((some a, row), rest)) <$> field.codec.read s
    else
      match fields.member row key with
      | .error cause => .error cause
      | .ok read => .ok fun s => (fun (row, rest) => ((slot, row), rest)) <$> read s

/-- The row when all members have been read: what is missing takes its `Field`'s value for absence. -/
def complete {ts : List Type} : Fields ts → Row Option ts → Except Cause (Row Id ts)
  | .nil, _ => .ok ()
  | .cons field fields, (slot, row) =>
    match slot, field.absent with
    | some a, _ => (fun row => (a, row)) <$> fields.complete row
    | none, some a => (fun row => (a, row)) <$> fields.complete row
    | none, none => .error (.missingField field.name)

/-- The values of a record from a list, up to its closing bracket. `index` fields have been read and
    `expected` says what the list should have held. -/
def readRow (expected : String) {ts : List Type} :
    Fields ts → (index : Nat) → List UInt8 → Except Fault (Row Id ts × List UInt8)
  | .nil, _, s => .ok ((), s)
  | .cons field fields, index, s =>
    match nextItem (index = 0) s with
    | .error f => .error f
    | .ok (true, t) =>
      match field.codec.read t with
      | .error f => .error f
      | .ok (a, rest) =>
        (fun (row, rest) => ((a, row), rest)) <$> readRow expected fields (index + 1) rest
    | .ok (false, t) =>
      match field.absent with
      | some a => (fun (row, rest) => ((a, row), rest)) <$> readRow expected fields (index + 1) t
      | none => .error (.here (.invalidLength index expected) (t.drop 1))

/-- Passes over the bracket that closes a list of values. -/
def closeRow (s : List UInt8) : Except Fault (List UInt8) :=
  match skipBlanks s with
  | [] => .error (.atNext .unfinishedList [])
  | b :: t =>
    if b = 0x5D then .ok t
    else if b = 0x2C then
      match skipBlanks t with
      | c :: u =>
        .error (.atNext (if c = 0x5D then .trailingComma else .trailingCharacters) (c :: u))
      | [] => .error (.atNext .trailingCharacters [])
    else .error (.atNext .trailingCharacters (b :: t))

/-- What a list of a record's values should hold. -/
def expectedRow (name : String) {ts : List Type} (fields : Fields ts) : String :=
  s!"struct {name} with {fields.count} element" ++ if fields.count = 1 then "" else "s"

/-- A record from an object or a list. -/
def read (name : String) {ts : List Type} (fields : Fields ts) : Reader (Row Id ts) :=
  afterBlanks fun b s =>
    if b = 0x7B then
      match readMembers fields.member true (Row.blank ts) s with
      | .error f => .error f
      | .ok (slots, rest) =>
        match fields.complete slots with
        | .ok row => .ok (row, rest.drop 1)
        | .error cause => .error (.here cause (rest.drop 1))
    else if b = 0x5B then
      match fields.readRow (fields.expectedRow name) 0 s with
      | .error f => .error f
      | .ok (row, rest) => (row, ·) <$> closeRow rest
    else .error (wrongType ("struct " ++ name) b s)

/-- The `Codec` of a record type whose values stand for rows. -/
def codec {α : Type} (name : String) {ts : List Type} (fields : Fields ts) (toRow : α → Row Id ts)
    (ofRow : Row Id ts → α) : Codec α where
  write a := .object (fields.write (toRow a))
  read s := (fun (row, rest) => (ofRow row, rest)) <$> fields.read name s

end Fields

end VolumeDriver.Json
