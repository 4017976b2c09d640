import VolumeDriver.CallOut.Parse
import VolumeDriver.Controller.Attachment
import VolumeDriver.Controller.FileSystemExport
import VolumeDriver.Controller.NodeName
import VolumeDriver.Host.Nfs
import VolumeDriver.Status
set_option autoImplicit false

/-! # Why a call-out fails

Whatever goes wrong ends up in the answer as a failure, with the `DriverFault` in words as its message. -/

namespace VolumeDriver

/-- Why a call-out fails. -/
inductive DriverFault
  | connect (fault : ConnectFault)
  | resolve (fault : ResolveFault)
  | attachment (fault : AttachmentFault)
  | export (fault : ExportFault)
  | host (fault : Host.Fault)
  | callOut (fault : CallOut.Fault)
  /-- the options do not name a volume -/
  | missingVolumeName
  /-- the program was called by a name that stands for no driver -/
  | unknownDriver (name : String)
  /-- the volume belongs to no kind of storage -/
  | unclaimed (volume : String)
  deriving DecidableEq, Repr

namespace DriverFault

/-- The `DriverFault` in words. -/
def message : DriverFault → String
  | connect (.config fault) => fault.message
  | connect (.controlPlane fault) => fault.message
  | resolve fault => fault.message
  | attachment fault => fault.message
  | .export fault => fault.message
  | host fault => fault.message
  | callOut fault => fault.message
  | missingVolumeName => "options do not name a volume (" ++ Options.volumeNameKey ++ ")"
  | unknownDriver name => "No driver found for " ++ name
  | unclaimed volume => "no driver claims volume " ++ volume

/-- The `Status` of a call-out that came to this result. -/
def answer : Except DriverFault Status → Status
  | .ok status => status
  | .error fault => .failure fault.message

end DriverFault

end VolumeDriver
