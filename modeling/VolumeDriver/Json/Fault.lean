import VolumeDriver.Text.Quoted
set_option autoImplicit false

/-! # Why a JSON text is refused

A fault has a cause and a place. The place is kept as the number of octets that were still unread,
which a reader knows without counting; `Fault.message` turns it into a line and a column of the text.
Lines count from one, and the column is the number of octets read on that line. -/

namespace VolumeDriver.Json

/-- What stood where a value of another kind was expected. -/
inductive Found
  | null
  | flag (b : Bool)
  | integer (n : Int)
  /-- a number with a fraction or an exponent, or too large for an integer -/
  | fraction (digits : String)
  | text (s : String)
  | sequence
  | map
  deriving DecidableEq, Repr

/-- The `Found` value in words. -/
def Found.describe : Found → String
  | .null => "null"
  | .flag b => if b then "boolean `true`" else "boolean `false`"
  | .integer n => "integer `" ++ toString n ++ "`"
  | .fraction digits => "floating point `" ++ digits ++ "`"
  | .text s => "string " ++ Quoted.quote s
  | .sequence => "sequence"
  | .map => "map"

/-- What is wrong with a text. -/
inductive Cause
  | unfinishedList
  | unfinishedObject
  | unfinishedText
  | unfinishedValue
  | expectedColon
  | expectedListComma
  | expectedObjectComma
  | expectedWord
  | expectedValue
  | invalidEscape
  | invalidNumber
  | numberOutOfRange
  | invalidCharacter
  | controlCharacter
  | keyNotText
  | loneSurrogate
  | unfinishedSurrogate
  | trailingComma
  | trailingCharacters
  | invalidType (found : Found) (expected : String)
  | invalidValue (found : Found) (expected : String)
  | invalidLength (length : Nat) (expected : String)
  | unknownVariant (name : String) (known : List String)
  | missingField (name : String)
  | duplicateField (name : String)
  deriving DecidableEq, Repr

/-- The `Cause` in words. -/
def Cause.describe : Cause → String
  | .unfinishedList => "EOF while parsing a list"
  | .unfinishedObject => "EOF while parsing an object"
  | .unfinishedText => "EOF while parsing a string"
  | .unfinishedValue => "EOF while parsing a value"
  | .expectedColon => "expected `:`"
  | .expectedListComma => "expected `,` or `]`"
  | .expectedObjectComma => "expected `,` or `\x7d`"
  | .expectedWord => "expected ident"
  | .expectedValue => "expected value"
  | .invalidEscape => "invalid escape"
  | .invalidNumber => "invalid number"
  | .numberOutOfRange => "number out of range"
  | .invalidCharacter => "invalid unicode code point"
  | .controlCharacter => "control character (\\u0000-\\u001F) found while parsing a string"
  | .keyNotText => "key must be a string"
  | .loneSurrogate => "lone leading surrogate in hex escape"
  | .unfinishedSurrogate => "unexpected end of hex escape"
  | .trailingComma => "trailing comma"
  | .trailingCharacters => "trailing characters"
  | .invalidType found expected => "invalid type: " ++ found.describe ++ ", expected " ++ expected
  | .invalidValue found expected => "invalid value: " ++ found.describe ++ ", expected " ++ expected
  | .invalidLength length expected =>
    "invalid length " ++ toString length ++ ", expected " ++ expected
  | .unknownVariant name known =>
    "unknown variant `" ++ name ++ "`, expected one of " ++
      ", ".intercalate (known.map fun k => "`" ++ k ++ "`")
  | .missingField name => "missing field `" ++ name ++ "`"
  | .duplicateField name => "duplicate field `" ++ name ++ "`"

/-- A `Cause`, and how many octets of the text were unread when it was met. -/
structure Fault where
  cause : Cause
  unread : Nat
  deriving DecidableEq, Repr

/-- A fault met with `rest` unread. -/
def Fault.here (cause : Cause) (rest : List UInt8) : Fault :=
  ⟨cause, rest.length⟩

/-- A fault at the first octet of `rest`, which counts as read if there is one. -/
def Fault.atNext (cause : Cause) (rest : List UInt8) : Fault :=
  ⟨cause, rest.length - 1⟩

/-- The line and column after the first octets of a text. -/
def place (read : List UInt8) : Nat × Nat :=
  (1 + read.count 0x0A, (read.reverse.takeWhile (· ≠ 0x0A)).length)

/-- The `Json.Fault` in words, with its `place` in the text. -/
def Fault.message (f : Fault) (text : List UInt8) : String :=
  let (line, column) := place (text.take (text.length - f.unread))
  f.cause.describe ++ s!" at line {line} column {column}"

end VolumeDriver.Json
