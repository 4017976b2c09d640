import VolumeDriver.Host.Fault
import VolumeDriver.Text.Blank
set_option autoImplicit false

/-! # Commands

A command is a program with its arguments. `Command.render` shows one the way a shell would have it
typed; `CommandOutput.requireSuccess` tells whether it did what it was run for. -/

namespace VolumeDriver

/-- A program with its arguments. -/
structure Command where
  program : String
  args : List String
  deriving DecidableEq, Repr

/-- What a command left behind. -/
structure CommandOutput where
  /-- the exit code, if the program was not killed -/
  code : Option Int
  output : String
  errors : String
  deriving DecidableEq, Repr

namespace CommandOutput

/-- Whether the command succeeded. -/
def isSuccess (o : CommandOutput) : Bool :=
  o.code = some 0

/-- The output of a command that succeeded (`isSuccess`), or the fault `Host.Fault.command`. -/
def requireSuccess (program : String) (o : CommandOutput) : Except Host.Fault CommandOutput :=
  if o.isSuccess then .ok o else .error (.command program o.code (Blank.trimmed o.errors))

end CommandOutput

namespace Command

/-- Whether a character may stand outside of quotes. -/
def isPlain (c : Char) : Bool :=
  ('a' ≤ c && c ≤ 'z') || ('A' ≤ c && c ≤ 'Z') || ('0' ≤ c && c ≤ '9') ||
    ['-', '_', '=', '/', ',', '.', '+'].contains c

/-- One character between quotes. Quotes and exclamation marks are put behind a backslash, for which
    the quotes have to be left for a moment. -/
def quoteChar (c : Char) : List Char :=
  if c = '\'' ∨ c = '!' then ['\'', '\\', c, '\''] else [c]

/-- An argument as it is typed: as it is if all of it `isPlain`, and otherwise each character as `quoteChar`
    has it. -/
def quote (arg : List Char) : List Char :=
  if !arg.isEmpty && arg.all isPlain then arg
  else '\'' :: arg.flatMap quoteChar ++ ['\'']

/-- The `Command` as it is typed, each part in its `quote`. -/
def render (c : Command) : String :=
  String.ofList (c.program.toList ++ c.args.flatMap fun arg => ' ' :: quote arg.toList)

/-- Program and arguments of a `Command` with blanks between them. -/
def words (c : Command) : String :=
  " ".intercalate (c.program :: c.args)

end Command

end VolumeDriver
