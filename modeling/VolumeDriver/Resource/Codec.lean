import VolumeDriver.Json.Record
import VolumeDriver.Resource.Basic
set_option autoImplicit false

/-! # Resources as JSON

The form in which the control plane sends resources, and in which interfaces are cached. Members that
a resource does not know are passed over, so the control plane may add to it. -/

namespace VolumeDriver

open Json

/-- The `AttachmentState` as JSON. -/
def AttachmentState.codec : Codec AttachmentState :=
  Codec.text.through text ofText

/-- The `InstanceState` as JSON. -/
def InstanceState.codec : Codec InstanceState :=
  Codec.text.through text ofText

/-- The `VnicState` as JSON. -/
def VnicState.codec : Codec VnicState :=
  Codec.text.through text ofText

/-- The `ExportState` as JSON. -/
def ExportState.codec : Codec ExportState :=
  Codec.text.through text ofText

/-- Attachments of volumes, `VolumeAttachment`, as JSON. -/
def VolumeAttachment.codec : Codec VolumeAttachment :=
  Fields.codec "VolumeAttachment"
    (.cons (.required "id" .text) <|
     .cons (.required "volumeId" .text) <|
     .cons (.required "instanceId" .text) <|
     .cons (.required "lifecycleState" AttachmentState.codec) <|
     .cons (.defaulted "attachmentType" .text "") <|
     .cons (.defaulted "ipv4" Codec.text.optional none) <|
     .cons (.defaulted "port" Codec.word16.optional none) <|
     .cons (.defaulted "iqn" Codec.text.optional none) .nil)
    (fun a => (a.id, a.volumeId, a.instanceId, a.state, a.attachmentType, a.ipv4, a.port, a.iqn, ()))
    fun (id, volumeId, instanceId, state, attachmentType, ipv4, port, iqn, ()) =>
      ⟨id, volumeId, instanceId, state, attachmentType, ipv4, port, iqn⟩

/-- Instances, `Instance`, as JSON. -/
def Instance.codec : Codec Instance :=
  Fields.codec "Instance"
    (.cons (.required "id" .text) <|
     .cons (.defaulted "displayName" .text "") <|
     .cons (.required "lifecycleState" InstanceState.codec) .nil)
    (fun i => (i.id, i.displayName, i.state, ()))
    fun (id, displayName, state, ()) => ⟨id, displayName, state⟩

/-- Attachments of interfaces, `VnicAttachment`, as JSON. -/
def VnicAttachment.codec : Codec VnicAttachment :=
  Fields.codec "VnicAttachment"
    (.cons (.required "id" .text) <|
     .cons (.required "instanceId" .text) <|
     .cons (.required "subnetId" .text) <|
     .cons (.defaulted "vnicId" Codec.text.optional none) <|
     .cons (.required "lifecycleState" VnicState.codec) .nil)
    (fun a => (a.id, a.instanceId, a.subnetId, a.vnicId, a.state, ()))
    fun (id, instanceId, subnetId, vnicId, state, ()) => ⟨id, instanceId, subnetId, vnicId, state⟩

/-- Interfaces, `Vnic`, as JSON. -/
def Vnic.codec : Codec Vnic :=
  Fields.codec "Vnic"
    (.cons (.required "id" .text) <|
     .cons (.whenPresent "publicIp" .text) <|
     .cons (.whenPresent "privateIp" .text) <|
     .cons (.whenPresent "hostnameLabel" .text) .nil)
    (fun v => (v.id, v.publicIp, v.privateIp, v.hostnameLabel, ()))
    fun (id, publicIp, privateIp, hostnameLabel, ()) => ⟨id, publicIp, privateIp, hostnameLabel⟩

/-- Networks, `Vcn`, as JSON. -/
def Vcn.codec : Codec Vcn :=
  Fields.codec "Vcn"
    (.cons (.required "id" .text) <| .cons (.required "compartmentId" .text) .nil)
    (fun v => (v.id, v.compartmentId, ()))
    fun (id, compartmentId, ()) => ⟨id, compartmentId⟩

/-- Subnets, `Subnet`, as JSON. -/
def Subnet.codec : Codec Subnet :=
  Fields.codec "Subnet"
    (.cons (.required "id" .text) <| .cons (.required "vcnId" .text) .nil)
    (fun s => (s.id, s.vcnId, ()))
    fun (id, vcnId, ()) => ⟨id, vcnId⟩

/-- File systems, `FileSystem`, as JSON. -/
def FileSystem.codec : Codec FileSystem :=
  Fields.codec "FileSystem"
    (.cons (.required "id" .text) <|
     .cons (.required "availabilityDomain" .text) <|
     .cons (.required "compartmentId" .text) .nil)
    (fun f => (f.id, f.availabilityDomain, f.compartmentId, ()))
    fun (id, availabilityDomain, compartmentId, ()) => ⟨id, availabilityDomain, compartmentId⟩

/-- Mount targets, `MountTarget`, as JSON. -/
def MountTarget.codec : Codec MountTarget :=
  Fields.codec "MountTarget"
    (.cons (.required "id" .text) <|
     .cons (.required "availabilityDomain" .text) <|
     .cons (.required "exportSetId" .text) <|
     .cons (.defaulted "privateIpIds" Codec.text.list []) <|
     .cons (.required "lifecycleState" ExportState.codec) .nil)
    (fun t => (t.id, t.availabilityDomain, t.exportSetId, t.privateIpIds, t.state, ()))
    fun (id, availabilityDomain, exportSetId, privateIpIds, state, ()) =>
      ⟨id, availabilityDomain, exportSetId, privateIpIds, state⟩

/-- Addresses, `PrivateIp`, as JSON. -/
def PrivateIp.codec : Codec PrivateIp :=
  Fields.codec "PrivateIp"
    (.cons (.required "id" .text) <| .cons (.required "ipAddress" .text) .nil)
    (fun p => (p.id, p.ipAddress, ()))
    fun (id, ipAddress, ()) => ⟨id, ipAddress⟩

/-- Exports, `Export`, as JSON. -/
def Export.codec : Codec Export :=
  Fields.codec "Export"
    (.cons (.required "id" .text) <|
     .cons (.required "exportSetId" .text) <|
     .cons (.required "fileSystemId" .text) <|
     .cons (.required "path" .text) <|
     .cons (.required "lifecycleState" ExportState.codec) .nil)
    (fun e => (e.id, e.exportSetId, e.fileSystemId, e.path, e.state, ()))
    fun (id, exportSetId, fileSystemId, path, state, ()) =>
      ⟨id, exportSetId, fileSystemId, path, state⟩

end VolumeDriver
