import VolumeDriver.ControlPlane.Fault
import VolumeDriver.Resource.Basic
set_option autoImplicit false

/-! # Exchanges with the control plane

An `Exchange` is one request, and `Exchange.Answer` is what a successful one brings. Nothing is
repeated or waited for here. Resources are created and deleted by asking for it; that it has happened
shows in the states they report afterwards. -/

namespace VolumeDriver.ControlPlane

/-- A part of a listing. -/
structure Page (α : Type) where
  items : List α
  /-- what to ask for to get the part after this one -/
  nextPage : Option String
  deriving Repr

/-- One request to the control plane. -/
inductive Exchange
  | attachVolume (instanceId volumeId : String)
  | getVolumeAttachment (id : String)
  | listVolumeAttachments (compartmentId volumeId : String) (page : Option String)
  | detachVolume (id : String)
  | getInstance (id : String)
  | listInstances (compartmentId : String) (displayName page : Option String)
  | getVcn (id : String)
  | listSubnets (compartmentId vcnId : String) (page : Option String)
  | listVnicAttachments (compartmentId : String) (page : Option String)
  | getVnic (id : String)
  | getFileSystem (id : String)
  | listMountTargets (compartmentId availabilityDomain : String) (page : Option String)
  | getPrivateIp (id : String)
  | listExports (exportSetId fileSystemId : String) (page : Option String)
  | createExport (exportSetId fileSystemId path : String)
  | getExport (id : String)
  | deleteExport (id : String)
  deriving DecidableEq, Repr

namespace Exchange

/-- What each `Exchange` brings if it succeeds. -/
def Answer : Exchange → Type
  | attachVolume .. | getVolumeAttachment .. => VolumeAttachment
  | listVolumeAttachments .. => Page VolumeAttachment
  | detachVolume .. | deleteExport .. => Unit
  | getInstance .. => Instance
  | listInstances .. => Page Instance
  | getVcn .. => Vcn
  | listSubnets .. => Page Subnet
  | listVnicAttachments .. => Page VnicAttachment
  | getVnic .. => Vnic
  | getFileSystem .. => FileSystem
  | listMountTargets .. => Page MountTarget
  | getPrivateIp .. => PrivateIp
  | listExports .. => Page Export
  | createExport .. | getExport .. => Export

/-- The control plane's name for the `Exchange`. -/
def operation : Exchange → String
  | attachVolume .. => "AttachVolume"
  | getVolumeAttachment .. => "GetVolumeAttachment"
  | listVolumeAttachments .. => "ListVolumeAttachments"
  | detachVolume .. => "DetachVolume"
  | getInstance .. => "GetInstance"
  | listInstances .. => "ListInstances"
  | getVcn .. => "GetVcn"
  | listSubnets .. => "ListSubnets"
  | listVnicAttachments .. => "ListVnicAttachments"
  | getVnic .. => "GetVnic"
  | getFileSystem .. => "GetFileSystem"
  | listMountTargets .. => "ListMountTargets"
  | getPrivateIp .. => "GetPrivateIp"
  | listExports .. => "ListExports"
  | createExport .. => "CreateExport"
  | getExport .. => "GetExport"
  | deleteExport .. => "DeleteExport"

end Exchange

end VolumeDriver.ControlPlane
