import VolumeDriver.ControlPlane.Exchange
import VolumeDriver.Dictionary
import VolumeDriver.Text.Numeral
set_option autoImplicit false

/-! # A control plane in memory

`Cloud` holds the resources of a control plane and answers every exchange at once. Attachments and
exports move on by one state whenever they are looked at, as if time had passed: from attaching to
attached, from detaching to detached, from creating to active and from deleting to deleted. The states
of single resources may be laid down instead, and exchanges may be made to fail. -/

namespace VolumeDriver.InMemory

open ControlPlane

/-- A control plane. -/
structure Cloud where
  /-- the number in the last identifier that was made up -/
  lastId : Nat := 0
  /-- how many items a page of a listing has; if none is given, it has all of them -/
  pageSize : Option Nat := none
  volumes : List String := []
  attachments : List VolumeAttachment := []
  /-- the states in which attachments will be found, by their identifiers -/
  attachmentStates : Dictionary (List AttachmentState) := .empty
  instances : List Instance := []
  vcns : List Vcn := []
  subnets : List Subnet := []
  vnicAttachments : List VnicAttachment := []
  vnics : Dictionary Vnic := .empty
  fileSystems : List FileSystem := []
  mountTargets : List MountTarget := []
  privateIps : List PrivateIp := []
  exports : List Export := []
  /-- the states in which exports will be found, by their identifiers -/
  exportStates : Dictionary (List ExportState) := .empty
  /-- the faults with which the next exchanges will fail, by their operations -/
  failures : Dictionary (List Fault) := .empty
  /-- the operations of all exchanges so far -/
  calls : List String := []
  deriving Repr

namespace Cloud

/-- The address of every target. -/
def targetAddress : String := "169.254.2.2"

/-- The port of every target. -/
def targetPort : UInt16 := 3260

/-- The name of a volume's target. -/
def targetName (volumeId : String) : String :=
  "iqn.2015-12.com.oracleiaas:" ++ volumeId

/-- The identifier with a number. -/
def madeUpId (kind : String) (n : Nat) : String :=
  "ocid1." ++ kind ++ ".oc1.fake." ++ toString n

/-- A new identifier, from `madeUpId`. -/
def allocate (c : Cloud) (kind : String) : String × Cloud :=
  (madeUpId kind (c.lastId + 1), { c with lastId := c.lastId + 1 })

/-! ## Filling -/

/-- The control plane with an attachment, whose volume is then known. -/
def addAttachment (c : Cloud) (a : VolumeAttachment) : Cloud :=
  { c with
    volumes := if a.volumeId ∈ c.volumes then c.volumes else c.volumes ++ [a.volumeId]
    attachments := c.attachments ++ [a] }

/-- The control plane with a network and its subnets. -/
def addVcn (c : Cloud) (id compartmentId : String) (subnetIds : List String) : Cloud :=
  { c with
    vcns := c.vcns ++ [⟨id, compartmentId⟩]
    subnets := c.subnets ++ subnetIds.map fun subnetId => ⟨subnetId, id⟩ }

/-- The control plane with an interface bound to an instance. -/
def addVnic (c : Cloud) (instanceId subnetId : String) (v : Vnic) (state : VnicState) : Cloud :=
  let (id, c) := c.allocate "vnicattachment"
  { c with
    vnicAttachments := c.vnicAttachments ++ [⟨id, instanceId, subnetId, some v.id, state⟩]
    vnics := c.vnics.insert v.id v }

/-- The control plane that will fail one more `Exchange`. -/
def failNext (c : Cloud) (operation : String) (fault : Fault) : Cloud :=
  { c with failures := c.failures.push operation fault }

/-! ## Answering -/

/-- The refusal of something that is not there. -/
def notFound (operation id : String) : Fault :=
  .refused operation Fault.notFoundStatus "NotAuthorizedOrNotFound"
    ("resource " ++ id ++ " not found")

/-- The refusal of something that is in the way of what is there. -/
def conflict (operation message : String) : Fault :=
  .refused operation Fault.conflictStatus "Conflict" message

/-- The place in a listing that a page begins at. -/
def offset : Option String → Nat
  | some token => (Numeral.parse? 18446744073709551615 token.toList).getD 0
  | none => 0

/-- A page of a listing, from the `offset` of its token on. -/
def paginate {α : Type} (c : Cloud) (items : List α) (page : Option String) : Page α :=
  match c.pageSize with
  | none => ⟨items.drop (offset page), none⟩
  | some size =>
    let part := (items.drop (offset page)).take size
    let stop := offset page + part.length
    ⟨part, if stop < items.length then some (toString stop) else none⟩

/-- A list with `f` applied to the first item with a property. -/
def updateFirst {α : Type} (p : α → Bool) (f : α → α) : List α → List α
  | [] => []
  | a :: rest => if p a then f a :: rest else a :: updateFirst p f rest

/-- The state that an attachment moves on to. -/
def nextAttachmentState : AttachmentState → AttachmentState
  | .attaching => .attached
  | .detaching => .detached
  | state => state

/-- The state that an export moves on to. -/
def nextExportState : ExportState → ExportState
  | .creating => .active
  | .deleting => .deleted
  | state => state

/-- Whether an attachment has an identifier. -/
def isAttachment (id : String) (a : VolumeAttachment) : Bool := a.id = id

/-- Whether an export has an identifier. -/
def isExport (id : String) (e : Export) : Bool := e.id = id

/-- The control plane with an attachment in another `AttachmentState`. -/
def setAttachmentState (c : Cloud) (id : String) (state : AttachmentState) : Cloud :=
  { c with attachments := updateFirst (isAttachment id) ({ · with state }) c.attachments }

/-- The control plane with an export in another `ExportState`. -/
def setExportState (c : Cloud) (id : String) (state : ExportState) : Cloud :=
  { c with exports := updateFirst (isExport id) ({ · with state }) c.exports }

/-- Attaches a volume. -/
def attachVolume (c : Cloud) (operation instanceId volumeId : String) :
    Except Fault VolumeAttachment × Cloud :=
  if volumeId ∉ c.volumes then (.error (notFound operation volumeId), c)
  else if c.attachments.any fun a => a.volumeId = volumeId && a.state.isLive then
    (.error (conflict operation ("volume " ++ volumeId ++ " is already attached")), c)
  else
    let (id, c) := c.allocate "volumeattachment"
    let attachment : VolumeAttachment :=
      { id, volumeId, instanceId, state := .attaching, attachmentType := "iscsi",
        ipv4 := some targetAddress, port := some targetPort, iqn := some (targetName volumeId) }
    (.ok attachment, { c with attachments := c.attachments ++ [attachment] })

/-- Looks at an attachment, which then moves on to its `nextAttachmentState`. A state that was laid down is
    shown at once. -/
def getVolumeAttachment (c : Cloud) (operation id : String) :
    Except Fault VolumeAttachment × Cloud :=
  let (laidDown, attachmentStates) := c.attachmentStates.pop id
  let c := { c with attachmentStates }
  match c.attachments.find? (isAttachment id), laidDown with
  | none, _ => (.error (notFound operation id), c)
  | some a, some state => (.ok { a with state }, c.setAttachmentState id state)
  | some a, none => (.ok a, c.setAttachmentState id (nextAttachmentState a.state))

/-- Begins to undo an attachment. -/
def detachVolume (c : Cloud) (operation id : String) : Except Fault Unit × Cloud :=
  match c.attachments.find? (isAttachment id) with
  | none => (.error (notFound operation id), c)
  | some a =>
    if a.state.isLive then (.ok (), c.setAttachmentState id .detaching)
    else (.error (conflict operation ("attachment " ++ id ++ " is " ++ a.state.text)), c)

/-- Creates an export, unless its path is taken. -/
def createExport (c : Cloud) (operation exportSetId fileSystemId path : String) :
    Except Fault Export × Cloud :=
  if c.exports.any fun e => e.exportSetId = exportSetId && e.path = path && e.state.isLive then
    (.error (conflict operation ("export path " ++ path ++ " already in use")), c)
  else
    let (id, c) := c.allocate "export"
    let created : Export := { id, exportSetId, fileSystemId, path, state := .creating }
    (.ok created, { c with exports := c.exports ++ [created] })

/-- Looks at an export, which then moves on to its `nextExportState`. A state that was laid down is shown at
    once. -/
def getExport (c : Cloud) (operation id : String) : Except Fault Export × Cloud :=
  let (laidDown, exportStates) := c.exportStates.pop id
  let c := { c with exportStates }
  match c.exports.find? (isExport id), laidDown with
  | none, _ => (.error (notFound operation id), c)
  | some e, some state => (.ok { e with state }, c.setExportState id state)
  | some e, none => (.ok e, c.setExportState id (nextExportState e.state))

/-- Begins to delete an export. -/
def deleteExport (c : Cloud) (operation id : String) : Except Fault Unit × Cloud :=
  if c.exports.any (isExport id) then (.ok (), c.setExportState id .deleting)
  else (.error (notFound operation id), c)

/-- The resource with an identifier, or the refusal `notFound`. -/
def fetch {α : Type} (operation id : String) : Option α → Except Fault α
  | some a => .ok a
  | none => .error (notFound operation id)

/-- Answers an `Exchange` that was not made to fail. -/
def respond (e : Exchange) (c : Cloud) : Except Fault e.Answer × Cloud :=
  let operation := e.operation
  match e with
  | .attachVolume instanceId volumeId => c.attachVolume operation instanceId volumeId
  | .getVolumeAttachment id => c.getVolumeAttachment operation id
  | .listVolumeAttachments _ volumeId page =>
    (.ok (c.paginate (c.attachments.filter fun a => a.volumeId = volumeId) page), c)
  | .detachVolume id => c.detachVolume operation id
  | .getInstance id => (fetch operation id (c.instances.find? fun i => i.id = id), c)
  | .listInstances _ displayName page =>
    let matching := c.instances.filter fun i =>
      match displayName with
      | some name => i.displayName = name
      | none => true
    (.ok (c.paginate matching page), c)
  | .getVcn id => (fetch operation id (c.vcns.find? fun v => v.id = id), c)
  | .listSubnets _ vcnId page =>
    (.ok (c.paginate (c.subnets.filter fun s => s.vcnId = vcnId) page), c)
  | .listVnicAttachments _ page => (.ok (c.paginate c.vnicAttachments page), c)
  | .getVnic id => (fetch operation id (c.vnics.get? id), c)
  | .getFileSystem id => (fetch operation id (c.fileSystems.find? fun f => f.id = id), c)
  | .listMountTargets _ domain page =>
    (.ok (c.paginate (c.mountTargets.filter fun t => t.availabilityDomain = domain) page), c)
  | .getPrivateIp id => (fetch operation id (c.privateIps.find? fun p => p.id = id), c)
  | .listExports exportSetId fileSystemId page =>
    let matching := c.exports.filter fun e =>
      e.exportSetId = exportSetId && e.fileSystemId = fileSystemId
    (.ok (c.paginate matching page), c)
  | .createExport exportSetId fileSystemId path =>
    c.createExport operation exportSetId fileSystemId path
  | .getExport id => c.getExport operation id
  | .deleteExport id => c.deleteExport operation id

/-- Answers an `Exchange`, which goes on record and may have been made to fail (`failNext`). -/
def exchange (e : Exchange) (c : Cloud) : Except Fault e.Answer × Cloud :=
  let (failure, failures) := c.failures.pop e.operation
  let c := { c with failures, calls := c.calls ++ [e.operation] }
  match failure with
  | some fault => (.error fault, c)
  | none => c.respond e

end Cloud

end VolumeDriver.InMemory
