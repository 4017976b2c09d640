set_option autoImplicit false

/-! # Lifecycle states

Every resource of the control plane reports where it is in its life. Each kind of resource has its own
states; a state this driver does not know is kept as it was reported, so that it can be shown. `text`
is how a state is reported and `ofText` reads it. -/

namespace VolumeDriver

/-- The states of a volume's attachment. -/
inductive AttachmentState
  | attaching
  | attached
  | detaching
  | detached
  | other (text : String)
  deriving DecidableEq, Repr

namespace AttachmentState

/-- How the `AttachmentState` is reported. -/
def text : AttachmentState → String
  | attaching => "ATTACHING"
  | attached => "ATTACHED"
  | detaching => "DETACHING"
  | detached => "DETACHED"
  | other text => text

/-- The `AttachmentState` that is reported so. -/
def ofText (text : String) : AttachmentState :=
  if text = "ATTACHING" then attaching
  else if text = "ATTACHED" then attached
  else if text = "DETACHING" then detaching
  else if text = "DETACHED" then detached
  else other text

/-- Whether the attachment is in place or about to be: `attached` or `attaching`. -/
def isLive : AttachmentState → Bool
  | attaching | attached => true
  | _ => false

end AttachmentState

/-- The states of an instance. -/
inductive InstanceState
  | provisioning
  | running
  | starting
  | stopping
  | stopped
  | terminating
  | terminated
  | other (text : String)
  deriving DecidableEq, Repr

namespace InstanceState

/-- How the `InstanceState` is reported. -/
def text : InstanceState → String
  | provisioning => "PROVISIONING"
  | running => "RUNNING"
  | starting => "STARTING"
  | stopping => "STOPPING"
  | stopped => "STOPPED"
  | terminating => "TERMINATING"
  | terminated => "TERMINATED"
  | other text => text

/-- The `InstanceState` that is reported so. -/
def ofText (text : String) : InstanceState :=
  if text = "PROVISIONING" then provisioning
  else if text = "RUNNING" then running
  else if text = "STARTING" then starting
  else if text = "STOPPING" then stopping
  else if text = "STOPPED" then stopped
  else if text = "TERMINATING" then terminating
  else if text = "TERMINATED" then terminated
  else other text

end InstanceState

/-- The states of a network interface's attachment. -/
inductive VnicState
  | attaching
  | attached
  | detaching
  | detached
  | other (text : String)
  deriving DecidableEq, Repr

namespace VnicState

/-- How the `VnicState` is reported. -/
def text : VnicState → String
  | attaching => "ATTACHING"
  | attached => "ATTACHED"
  | detaching => "DETACHING"
  | detached => "DETACHED"
  | other text => text

/-- The `VnicState` that is reported so. -/
def ofText (text : String) : VnicState :=
  if text = "ATTACHING" then attaching
  else if text = "ATTACHED" then attached
  else if text = "DETACHING" then detaching
  else if text = "DETACHED" then detached
  else other text

end VnicState

/-- The states of exports and mount targets. -/
inductive ExportState
  | creating
  | active
  | deleting
  | deleted
  | failed
  | other (text : String)
  deriving DecidableEq, Repr

namespace ExportState

/-- How the `ExportState` is reported. -/
def text : ExportState → String
  | creating => "CREATING"
  | active => "ACTIVE"
  | deleting => "DELETING"
  | deleted => "DELETED"
  | failed => "FAILED"
  | other text => text

/-- The `ExportState` that is reported so. -/
def ofText (text : String) : ExportState :=
  if text = "CREATING" then creating
  else if text = "ACTIVE" then active
  else if text = "DELETING" then deleting
  else if text = "DELETED" then deleted
  else if text = "FAILED" then failed
  else other text

/-- Whether the export is in place or about to be: `active` or `creating`. -/
def isLive : ExportState → Bool
  | creating | active => true
  | _ => false

end ExportState

end VolumeDriver
