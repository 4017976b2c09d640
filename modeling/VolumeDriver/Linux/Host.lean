import VolumeDriver.Flow
import VolumeDriver.Host.Action
import VolumeDriver.Linux.Command
set_option autoImplicit false

/-! # The host side on Linux

On Linux the operations of the host side are commands and looks at the file system: `iscsiadm` for
targets, `blkid` and `mkfs` for file systems, `mount` and `umount`, the kernel's mount table, and the
directory of links that spell targets. `Linux.perform` is the flow of each operation. -/

namespace VolumeDriver.Linux

/-- What is asked of the system. -/
inductive Action
  | run (command : Command)
  | exists (path : String)
  /-- the path without links that leads to the same place, if the path leads anywhere -/
  | canonical (path : String)
  /-- the kernel's mount table -/
  | mountTable
  /-- the names in a directory, if it is there -/
  | names (directory : String)
  deriving DecidableEq, Repr

/-- What each `Action` brings. The faults of files are told in words. -/
def Action.Answer : Action → Type
  | run _ => Except Host.Fault CommandOutput
  | .exists _ => Except String Bool
  | canonical _ => Option String
  | mountTable => Except String String
  | names _ => Except String (Option (List String))

/-- The actions on Linux. -/
def signature : Signature := ⟨Action, Action.Answer⟩

/-- A `Fallible` flow on Linux. -/
abbrev Run (α : Type) : Type := Fallible Host.Fault signature α

/-! ## Commands -/

/-- Runs a `Command`, whether it succeeds or not. -/
def runCommand (program : String) (args : List String) : Run CommandOutput :=
  .ofFlow (Flow.perform (S := signature) (.run ⟨program, args⟩))

/-- Runs a `Command` that has to succeed (`CommandOutput.requireSuccess`). -/
def succeed (program : String) (args : List String) : Run CommandOutput := do
  let output ← runCommand program args
  .ofExcept (output.requireSuccess program)

/-- The program that manages targets. -/
def initiator : String := "iscsiadm"

/-- The arguments that manage a target. -/
def targetArgs (target : IscsiTarget) (request : List String) : List String :=
  ["-m", "node", "-p", target.portal, "-T", target.iqn] ++ request

/-- Has the `initiator` do something about a target. -/
def manageTarget (target : IscsiTarget) (request : List String) : Run Unit := do
  let _ ← succeed initiator (targetArgs target request)

/-! ## File systems -/

/-- The type of a new file system if none is asked for. -/
def defaultFsType : String := "ext4"

/-- The exit code that says that a device holds no file system. -/
def nothingFound : Int := 2

/-- The type of the file system on a device. -/
def probe (device : String) : Run (Option String) := do
  let output ← runCommand "blkid" ["-p", "-s", "TYPE", "-o", "value", device]
  if output.code = some nothingFound then return none
  else
    let output ← .ofExcept (output.requireSuccess "blkid")
    let fsType := Blank.trimmed output.output
    return if fsType = "" then none else some fsType

/-- Whether the program that formats would ask back. -/
def asksBack (fsType : String) : Bool :=
  Cut.startsWith fsType "ext"

/-- Puts a file system on a device. -/
def format (device fsType : String) : Run Unit := do
  let _ ← succeed ("mkfs." ++ fsType) (if asksBack fsType then ["-F", device] else [device])

/-- The arguments of a mount. -/
def mountArgs (source target fsType : String) (options : List String) : List String :=
  let joined := ",".intercalate options
  ["-t", fsType] ++ (if joined = "" then [] else ["-o", joined]) ++ [source, target]

/-- Mounts a source at a directory. -/
def mount (source target fsType : String) (options : List String) : Run Unit := do
  let _ ← succeed "mount" (mountArgs source target fsType options)

/-- Mounts a device, on which `format` puts a file system first if `probe` finds none. -/
def formatAndMount (device target fsType : String) (options : List String) : Run Unit := do
  let requested := if fsType = "" then defaultFsType else fsType
  match ← probe device with
  | none => format device requested
  | some existing =>
    if existing ≠ requested then throw (.filesystemMismatch device existing requested)
  mount device target requested options

/-! ## Looks at the file system -/

/-- The path of the kernel's mount table. -/
def mountTablePath : String := "/proc/mounts"

/-- The directory of the links that spell targets. -/
def linkDirectory : String := "/dev/disk/by-path"

/-- The path without links that leads to the same place. -/
def canonical (path : String) : Run (Option String) :=
  ExceptT.lift (Flow.perform (S := signature) (.canonical path))

/-- An answer whose fault is told in words. -/
def orAccessFault {α : Type} (path : String) (m : Flow signature (Except String α)) : Run α :=
  Fallible.wrap (.access path) (.ofFlow m)

/-- The current mounts, read off the table at `mountTablePath` by `MountTable.parse`. -/
def mounts : Run (List MountEntry) := do
  let table ← orAccessFault mountTablePath (Flow.perform (S := signature) .mountTable)
  return MountTable.parse table.toList

/-- Whether a device is mounted under its own name or the one without links (`canonical`). -/
def deviceOpened (device : String) : Run Bool := do
  let resolved ← canonical device
  let table ← mounts
  return table.any fun e => e.source = device || some e.source = resolved

/-- The first of some links that leads to a place. -/
def firstLinkTo (place : String) : List String → Run (Option String)
  | [] => return none
  | name :: names => do
    let link := linkDirectory ++ "/" ++ name
    if ← isLinkTo place name link then return some link else firstLinkTo place names
where
  /-- Whether a name is that of a target's link, and leads to the place. -/
  isLinkTo (place name link : String) : Run Bool :=
    if (Cut.splitFirst? IscsiTarget.iscsiMark.toList name.toList).isSome then do
      return (← canonical link) = some place
    else return false

/-- The link of a device in `linkDirectory`, which spells its target. -/
def byPathLink (device : String) : Run (Option String) := do
  match ← canonical device with
  | none => return none
  | some place =>
    match ← orAccessFault linkDirectory
        (Flow.perform (S := signature) (.names linkDirectory)) with
    | none => return none
    | some names => firstLinkTo place names

/-! ## The operations -/

/-- The flow of a `Host.Operation`. -/
def perform : (o : Host.Operation) → Run o.Value
  | .addRecord target => manageTarget target ["-o", "new"]
  | .setAutomaticLogin target =>
    manageTarget target ["-o", "update", "-n", "node.startup", "-v", "automatic"]
  | .login target => manageTarget target ["-l"]
  | .logout target => manageTarget target ["-u"]
  | .removeRecord target => manageTarget target ["-o", "delete"]
  | .deviceExists device =>
    orAccessFault device (Flow.perform (S := signature) (.exists device))
  | .deviceOpened device => deviceOpened device
  | .byPathLink device => byPathLink device
  | .formatAndMount device target fsType options => formatAndMount device target fsType options
  | .mounts => mounts
  | .mount source target fsType options => mount source target fsType options
  | .unmount target => do
    let _ ← succeed "umount" [target]

end VolumeDriver.Linux
