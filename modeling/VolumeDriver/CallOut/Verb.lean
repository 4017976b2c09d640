set_option autoImplicit false

/-! # The verbs of call-outs

A call-out is a `Verb` and a fixed number of arguments. This is the one table of both: what each verb is
called (`name`), what it does in a few words (`summary`), and what its `arguments` are. -/

namespace VolumeDriver

/-- What a call-out asks for. -/
inductive Verb
  | init
  | getVolumeName
  | attach
  | detach
  | waitForAttach
  | isAttached
  | mountDevice
  | unmountDevice
  | mount
  | unmount
  deriving DecidableEq, Repr

namespace Verb

/-- All of `Verb`, in the order in which they are listed. -/
def all : List Verb :=
  [init, getVolumeName, attach, detach, waitForAttach, isAttached, mountDevice, unmountDevice, mount,
    unmount]

/-- How callers spell the verb. -/
def name : Verb → String
  | init => "init"
  | getVolumeName => "getvolumename"
  | attach => "attach"
  | detach => "detach"
  | waitForAttach => "waitforattach"
  | isAttached => "isattached"
  | mountDevice => "mountdevice"
  | unmountDevice => "unmountdevice"
  | mount => "mount"
  | unmount => "unmount"

/-- The verb whose `name` is spelt so. -/
def ofName? (name : String) : Option Verb :=
  all.find? fun v => v.name = name

/-- What the verb does. -/
def summary : Verb → String
  | init => "Check the driver configuration and report capabilities"
  | getVolumeName => "Report a unique volume name (not supported)"
  | attach => "Attach a volume to a node"
  | detach => "Detach a volume from a node"
  | waitForAttach => "Wait for an attached device to become usable"
  | isAttached => "Check whether a volume is attached to a node"
  | mountDevice => "Mount an attached device at its global mount directory"
  | unmountDevice => "Unmount a device from its global mount directory"
  | mount => "Mount a volume into a pod directory (not supported)"
  | unmount => "Unmount a volume from a pod directory (not supported)"

/-- The arguments of the verb: the placeholder and the meaning of each. -/
def arguments : Verb → List (String × String)
  | init => []
  | getVolumeName => [("OPTIONS", "JSON options")]
  | attach => [("OPTIONS", "JSON options"), ("NODE_NAME", "Node the volume is attached to")]
  | detach => [("VOLUME", "Volume name or OCID"), ("NODE_NAME", "Node the volume is detached from")]
  | waitForAttach => [("DEVICE", "Device returned by attach"), ("OPTIONS", "JSON options")]
  | isAttached => [("OPTIONS", "JSON options"), ("NODE_NAME", "Node to check")]
  | mountDevice =>
    [("MOUNT_DIR", "Global mount directory"), ("DEVICE", "Device returned by attach"),
      ("OPTIONS", "JSON options")]
  | unmountDevice => [("MOUNT_DIR", "Global mount directory")]
  | mount => [("MOUNT_DIR", "Pod mount directory"), ("OPTIONS", "JSON options")]
  | unmount => [("MOUNT_DIR", "Pod mount directory")]

/-- How many `arguments` the verb takes. -/
def arity (v : Verb) : Nat :=
  v.arguments.length

end Verb

end VolumeDriver
