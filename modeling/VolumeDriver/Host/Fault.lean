import VolumeDriver.Host.IscsiTarget
set_option autoImplicit false

/-! # What can go wrong on a host -/

namespace VolumeDriver.Host

/-- Why a device is not where it should be. -/
inductive Fault
  | invalidDevicePath (device reason : String)
  /-- a program could not be started -/
  | spawn (program message : String)
  /-- a program failed; one that was killed has no code -/
  | command (program : String) (code : Option Int) (errors : String)
  /-- the file system refuses access -/
  | access (path message : String)
  | deviceMissing (device : String) (attempts : Nat)
  | filesystemMismatch (device existing requested : String)
  | notIscsi (device mountPoint : String)
  | foreignMount (target existing expected : String)
  deriving DecidableEq, Repr

/-- The exit code of a program as it is shown. -/
def describeCode : Option Int → String
  | some code => "Some(" ++ toString code ++ ")"
  | none => "None"

/-- The `Host.Fault` in words. -/
def Fault.message : Fault → String
  | invalidDevicePath device reason => "invalid device path " ++ device ++ ": " ++ reason
  | spawn program message => "failed to run " ++ program ++ ": " ++ message
  | command program code errors =>
    program ++ " exited with status " ++ describeCode code ++ ": " ++ errors
  | access path message => "failed to access " ++ path ++ ": " ++ message
  | deviceMissing device attempts =>
    "device " ++ device ++ " did not appear after " ++ toString attempts ++ " checks"
  | filesystemMismatch device existing requested =>
    "device " ++ device ++ " already contains a " ++ existing ++ " filesystem, not " ++ requested
  | notIscsi device mountPoint =>
    "device " ++ device ++ " mounted at " ++ mountPoint ++ " is not an iSCSI device"
  | foreignMount target existing expected =>
    target ++ " already has " ++ existing ++ " mounted, not " ++ expected

/-- The target of a device by `IscsiTarget.ofDevicePath`, with the device named in the fault if there is
    none. -/
def targetOf (device : String) : Except Fault IscsiTarget :=
  match IscsiTarget.ofDevicePath device with
  | .ok target => .ok target
  | .error fault => .error (.invalidDevicePath device fault.reason)

end VolumeDriver.Host
