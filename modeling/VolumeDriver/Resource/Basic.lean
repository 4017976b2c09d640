import VolumeDriver.Resource.State
import VolumeDriver.Text.Cut
set_option autoImplicit false

/-! # Resources of the control plane

What the driver knows of the things it manages: only the fields it reads. -/

namespace VolumeDriver

/-- A block volume bound to an `Instance`. -/
structure VolumeAttachment where
  id : String
  volumeId : String
  instanceId : String
  state : AttachmentState
  /-- the transport, such as `iscsi` -/
  attachmentType : String
  /-- address, port and name of the iSCSI target, known once it exists -/
  ipv4 : Option String
  port : Option UInt16
  iqn : Option String
  deriving DecidableEq, Repr

/-- A machine. -/
structure Instance where
  id : String
  displayName : String
  state : InstanceState
  deriving DecidableEq, Repr

/-- The binding of a network interface, a `Vnic`, to an `Instance`. -/
structure VnicAttachment where
  id : String
  instanceId : String
  subnetId : String
  /-- the interface, once it exists -/
  vnicId : Option String
  state : VnicState
  deriving DecidableEq, Repr

/-- The identity of a network interface in its network. -/
structure Vnic where
  id : String
  publicIp : Option String
  privateIp : Option String
  hostnameLabel : Option String
  deriving DecidableEq, Repr

/-- Whether the interface belongs to the node of that name: its public address is the name, or its
    host name's label is the beginning of it. -/
def Vnic.identifies (v : Vnic) (node : String) : Bool :=
  v.publicIp = some node ||
    match v.hostnameLabel with
    | some label => label ≠ "" && Cut.startsWith node label
    | none => false

/-- A virtual network. -/
structure Vcn where
  id : String
  /-- the compartment of the network and its subnets -/
  compartmentId : String
  deriving DecidableEq, Repr

/-- A part of a virtual network, a `Vcn`. -/
structure Subnet where
  id : String
  vcnId : String
  deriving DecidableEq, Repr

/-- A file system that can be exported. -/
structure FileSystem where
  id : String
  availabilityDomain : String
  compartmentId : String
  deriving DecidableEq, Repr

/-- A server through which file systems are mounted. -/
structure MountTarget where
  id : String
  availabilityDomain : String
  /-- the set that its exports belong to -/
  exportSetId : String
  privateIpIds : List String
  state : ExportState
  deriving DecidableEq, Repr

/-- An address in a `Subnet`. -/
structure PrivateIp where
  id : String
  ipAddress : String
  deriving DecidableEq, Repr

/-- A `FileSystem` reachable through the mount targets of an export set. -/
structure Export where
  id : String
  exportSetId : String
  fileSystemId : String
  path : String
  state : ExportState
  deriving DecidableEq, Repr

end VolumeDriver
