import VolumeDriver.Controller.Patience
import VolumeDriver.Host.IscsiTarget
set_option autoImplicit false

/-! # Attachments of block volumes

Requests to the control plane carry nothing by which a repeated one could be told, so what is there is
looked at again instead of being remembered. An `attach` that finds the volume attached already counts as
done if the attachment belongs to the right instance, and `findAttachment` looks a volume up by its
attachments that are in place or about to be. -/

namespace VolumeDriver

/-- Why an attachment is not where it should be. -/
inductive AttachmentFault
  | controlPlane (fault : ControlPlane.Fault)
  | attachedElsewhere (volumeId instanceId : String)
  | notFound (volumeId : String)
  | unexpectedState (state : AttachmentState) (action : String)
  | retriesExceeded (retries : Nat) (action : String)
  | notIscsi (attachmentId reason : String)
  deriving DecidableEq, Repr

/-- The `AttachmentFault` in words. -/
def AttachmentFault.message : AttachmentFault → String
  | controlPlane fault => fault.message
  | attachedElsewhere _ instanceId => "already attached to instance: " ++ instanceId
  | notFound volumeId => "failed to find volume attachment for '" ++ volumeId ++ "'"
  | unexpectedState state action =>
    "unexpected state '" ++ state.text ++ "' while waiting for volume " ++ action
  | retriesExceeded retries action =>
    "maximum number of retries (" ++ toString retries ++ ") exceeded " ++ action ++ " volume"
  | notIscsi attachmentId reason =>
    "attachment " ++ attachmentId ++ " is not a usable iSCSI attachment: " ++ reason

namespace Controller

/-- A `request` about attachments. -/
def requestAttachment (e : ControlPlane.Exchange) : Run AttachmentFault e.Answer :=
  (request e).wrap .controlPlane

/-- The first attachment of a volume that is in place or about to be (`AttachmentState.isLive`). -/
def findAttachment (limits : Limits) (compartmentId volumeId : String) :
    Run AttachmentFault VolumeAttachment := do
  let list page := requestAttachment (.listVolumeAttachments compartmentId volumeId page)
  let endless := throw (.controlPlane (.endless "ListVolumeAttachments" limits.pages))
  match ← findOnPages endless list (fun a => a.state.isLive) limits.pages none with
  | some found => return found
  | none => throw (.notFound volumeId)

/-- Asks for a volume to be attached to an instance. A conflict means that it is attached already, which
    will do if `findAttachment` finds it attached to the same instance. -/
def attach (limits : Limits) (compartmentId instanceId volumeId : String) :
    Run AttachmentFault VolumeAttachment := do
  match ← (request (.attachVolume instanceId volumeId)).outcome with
  | .ok attachment => return attachment
  | .error fault =>
    if fault.isConflict then
      match ← (findAttachment limits compartmentId volumeId).outcome with
      | .ok existing =>
        if existing.instanceId = instanceId then return existing
        else throw (.attachedElsewhere volumeId existing.instanceId)
      | .error (.notFound _) => throw (.controlPlane fault)
      | .error fault => throw fault
    else throw (.controlPlane fault)

/-- Waits until an attachment is `AttachmentState.attached`. -/
def waitForAttached (limits : Limits) (id : String) : Run AttachmentFault VolumeAttachment :=
  poll limits.poll (.retriesExceeded limits.poll.retries "attaching") do
    let attachment : VolumeAttachment ← requestAttachment (.getVolumeAttachment id)
    match attachment.state with
    | .attaching => return none
    | .attached => return some attachment
    | state => throw (.unexpectedState state "attach")

/-- Asks for an attachment to be undone. -/
def detach (id : String) : Run AttachmentFault Unit :=
  requestAttachment (.detachVolume id)

/-- Waits until an attachment is `AttachmentState.detached`. -/
def waitForDetached (limits : Limits) (id : String) : Run AttachmentFault Unit :=
  poll limits.poll (.retriesExceeded limits.poll.retries "detaching") do
    let attachment : VolumeAttachment ← requestAttachment (.getVolumeAttachment id)
    match attachment.state with
    | .detaching => return none
    | .detached => return some ()
    | state => throw (.unexpectedState state "detach")

end Controller

/-- The `IscsiTarget` that an attachment makes reachable. -/
def VolumeAttachment.target (a : VolumeAttachment) : Except AttachmentFault IscsiTarget := do
  let orNotIscsi {α : Type} (reason : String) : Option α → Except AttachmentFault α
    | some value => .ok value
    | none => .error (.notIscsi a.id reason)
  let address ← orNotIscsi "missing target address" a.ipv4
  let ip ← orNotIscsi "target address is not IPv4" (Ipv4.parse? address.toList)
  let port ← orNotIscsi "missing target port" a.port
  let iqn ← orNotIscsi "missing target IQN" (a.iqn.filter (· ≠ ""))
  return ⟨ip, port, iqn, IscsiTarget.defaultLun⟩

/-- The path of the device that an attachment makes appear: that of its `VolumeAttachment.target`. -/
def VolumeAttachment.devicePath (a : VolumeAttachment) : Except AttachmentFault String := do
  return (← a.target).devicePath

end VolumeDriver
