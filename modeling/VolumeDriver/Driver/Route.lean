import VolumeDriver.Driver.BlockVolume
import VolumeDriver.Driver.FileStorage
import VolumeDriver.Files.Path
set_option autoImplicit false

/-! # Which driver answers

The program is installed under several names, and each has its `Route`. Some stand for one driver; for the
others the call-out decides: by the kind of storage that its volume belongs to, or, if it names none, by
what is mounted at its directory. `execute` is the answer of the program. -/

namespace VolumeDriver

/-- How a driver is chosen. -/
inductive Route
  /-- by the call-out -/
  | claim
  | fixed (family : StorageFamily)
  deriving DecidableEq, Repr

namespace Route

/-- What may stand before the name of the program. -/
def vendorStart : String := "oracle~"

/-- The names of the program, and the `Route` of each. -/
def standard : List (String × Route) :=
  [("oci", claim), ("oci-flexvolume", claim), ("oci-bvs", fixed .block),
   ("oci-fss", fixed .fileStorage)]

/-- The name that a program was called by. -/
def calledName (program : String) : String :=
  let name := (Path.fileName? program).getD program
  match Cut.dropPrefix? vendorStart.toList name.toList with
  | some rest => String.ofList rest
  | none => name

/-- The `Route` that a program's name stands for. -/
def lookup (table : List (String × Route)) (program : String) : Except DriverFault Route :=
  match table.lookup (calledName program) with
  | some route => .ok route
  | none => .error (.unknownDriver (calledName program))

/-- The `StorageFamily` that a volume belongs to, by `StorageFamily.ofName?`. -/
def claimed (volume : String) : Except DriverFault StorageFamily :=
  match StorageFamily.ofName? volume with
  | some family => .ok family
  | none => .error (.unclaimed volume)

/-- Chooses the driver for a call-out. An unmount goes by what is mounted (`mountAt`); other call-outs that
    name no volume go to the driver for block volumes. -/
def select : Route → CallOut → DriverRun StorageFamily
  | fixed family, _ => pure family
  | claim, .unmountDevice directory => do
    match ← onHost (Host.mountAt directory) with
    | some entry => return if entry.isNfs then .fileStorage else .block
    | none => return .block
  | claim, callOut =>
    match callOut.volumeName? with
    | some volume => .ofExcept (claimed volume)
    | none => pure .block

end Route

/-- The `Driver` for a `StorageFamily`. -/
def driverFor (timing : Timing) : StorageFamily → Driver
  | .block => BlockVolume.driver timing
  | .fileStorage => FileStorage.driver timing

/-- Chooses the driver for the arguments of the process, the program's name first, by `Route.lookup`,
    `CallOut.parse` and `Route.select`. -/
def chooseDriver (table : List (String × Route)) (args : List String) :
    DriverRun (StorageFamily × CallOut) := do
  let route ← .ofExcept (Route.lookup table (args.headD ""))
  let callOut ← Fallible.wrap .callOut (.ofExcept (CallOut.parse args))
  let family ← route.select callOut
  return (family, callOut)

/-- Answers the arguments of the process, the program's name first, by the `Driver.dispatch` of the driver
    that `chooseDriver` chooses. -/
def execute (timing : Timing) (table : List (String × Route)) (args : List String) : Answering := do
  match ← (chooseDriver table args).run with
  | .ok (family, callOut) => (driverFor timing family).dispatch callOut
  | .error fault => return .failure fault.message

end VolumeDriver
