import VolumeDriver.Files.Tree
import VolumeDriver.Linux.Host
set_option autoImplicit false

/-! # A Linux machine in memory

`Machine` answers what the host side asks of Linux: files from a tree, the mount table from a text, and
commands with outputs that were laid down in advance, one after the other. -/

namespace VolumeDriver.InMemory

/-- A machine. -/
structure Machine where
  files : Files.Tree := {}
  mountTable : String := ""
  /-- the outputs of the next commands -/
  outputs : List CommandOutput := []
  /-- why a command beyond these cannot be started -/
  exhausted : String := "no scripted response available"
  /-- the commands that were run -/
  commands : List Command := []
  clock : Nat := 0
  deriving Repr

namespace Machine

/-- Answers a `Linux.Action`. -/
def respond (a : Linux.Action) (m : Machine) : a.Answer × Machine :=
  match a with
  | .run command =>
    let m := { m with commands := m.commands ++ [command] }
    match m.outputs with
    | [] => (.error (.spawn command.program m.exhausted), m)
    | output :: outputs => (.ok output, { m with outputs })
  | .exists path => (Except.mapError Files.Fault.message (m.files.isThere path), m)
  | .canonical path => (m.files.canonical? path, m)
  | .mountTable => (.ok m.mountTable, m)
  | .names directory =>
    match m.files.names directory with
    | .ok names => (.ok (some names), m)
    | .error .notFound => (.ok none, m)
    | .error fault => (.error fault.message, m)

/-- Answers a `Host.Action`. -/
def serve (a : Host.Action) (m : Machine) : a.Answer × Machine :=
  match a with
  | .operate o => (Linux.perform o).run.run respond m
  | .pause milliseconds => ((), { m with clock := m.clock + milliseconds })

end Machine

end VolumeDriver.InMemory
