import VolumeDriver.Driver.Route
import VolumeDriver.Http.Connect
set_option autoImplicit false

/-! # The program

The program is run once for every call-out. Its arguments are the call-out, with the name it was called by
first; `run` answers it, `output` is what is printed, one line, and the `Status.exitCode` tells whether the
call-out failed. -/

namespace VolumeDriver.CommandLine

/-- The arguments as text. What is no text in them is replaced. -/
def textOf (args : List (List UInt8)) : List String :=
  args.map Utf8.toTextLossy

/-- The variables of the environment that the program looks at. -/
def variableNames : List String :=
  DriverPaths.variableNames ++ Config.variableNames ++ [Http.proxyVariable, Http.certificateVariable]

/-- The flow of the program: `execute` with the arguments as they are. -/
def run (args : List String) : Answering :=
  execute {} Route.standard args

/-- What the program prints: the `Status.line`. -/
def output (s : Status) : String :=
  s.line ++ "\n"

end VolumeDriver.CommandLine
