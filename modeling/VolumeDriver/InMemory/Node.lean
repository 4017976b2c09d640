import VolumeDriver.Dictionary
import VolumeDriver.Host.Action
set_option autoImplicit false

/-! # A host in memory

`Node` answers the operations of the host side. The device of a target appears with the login and
disappears with the logout, but the file system on it stays. A mount needs a directory to be mounted at;
mounts at one directory lie on top of each other. Operations may be made to fail. -/

namespace VolumeDriver.InMemory

open Host

/-- A host. -/
structure Node where
  directories : Dictionary.Names := .empty
  /-- the names of the targets on record with the initiator -/
  records : Dictionary.Names := .empty
  /-- the names of the targets that are logged in to whenever the host starts -/
  automaticLogins : Dictionary.Names := .empty
  /-- the names of the targets that are logged in to -/
  sessions : Dictionary.Names := .empty
  devices : Dictionary.Names := .empty
  /-- the types of the file systems on devices -/
  fileSystems : Dictionary String := .empty
  mounts : List MountEntry := []
  /-- whether devices stay away in spite of a login -/
  withholdsDevices : Bool := false
  /-- the faults with which the next operations will fail, by their names -/
  failures : Dictionary (List Fault) := .empty
  /-- the names of all operations so far -/
  calls : List String := []
  /-- how often a device was formatted -/
  formats : Nat := 0
  deriving Repr

namespace Node

/-- The name of an `Operation` in the record of calls. -/
def operationName : Operation → String
  | .addRecord _ => "add_to_db"
  | .setAutomaticLogin _ => "set_automatic_login"
  | .login _ => "login"
  | .logout _ => "logout"
  | .removeRecord _ => "remove_from_db"
  | .deviceExists _ => "device_exists"
  | .deviceOpened _ => "device_opened"
  | .byPathLink _ => "by_path_link"
  | .formatAndMount .. => "format_and_mount"
  | .mounts => "mounts"
  | .mount .. => "mount"
  | .unmount _ => "unmount"

/-- Puts an `Operation` on record; the fault is the one it was made to fail with. -/
def record (n : Node) (operation : Operation) : Option Fault × Node :=
  let name := operationName operation
  let (failure, failures) := n.failures.pop name
  (failure, { n with failures, calls := n.calls ++ [name] })

/-- Mounts a source at a directory. -/
def mount (n : Node) (source target fsType : String) : Except Fault Unit × Node :=
  if n.directories.contains target then
    (.ok (), { n with mounts := n.mounts ++ [⟨source, target, fsType⟩] })
  else
    (.error (.command "mount" (some 32) ("mount point " ++ target ++ " does not exist")), n)

/-- The mounts without the last one at exactly this directory. -/
def removeLast (target : String) (mounts : List MountEntry) : List MountEntry :=
  (mounts.reverse.eraseP fun e => e.target = target).reverse

/-- Undoes the last mount at a directory (`removeLast`). -/
def unmount (n : Node) (target : String) : Except Fault Unit × Node :=
  if n.mounts.any fun e => e.target = target then
    (.ok (), { n with mounts := removeLast target n.mounts })
  else (.error (.command "umount" (some 32) (target ++ ": not mounted")), n)

/-- Sees to it that a device holds a file system of a type. -/
def format (n : Node) (device fsType : String) : Except Fault Unit × Node :=
  if n.devices.contains device then
    match n.fileSystems.get? device with
    | none =>
      (.ok (), { n with
        fileSystems := n.fileSystems.insert device fsType
        formats := n.formats + 1 })
    | some existing =>
      if existing = fsType then (.ok (), n)
      else (.error (.filesystemMismatch device existing fsType), n)
  else
    (.error (.command "blkid" (some 2) (device ++ ": No such file or directory")), n)

/-- Answers an `Operation` that was not made to fail. The mount after formatting is an operation of its own
    and may be made to fail as well. -/
def respond (o : Operation) (n : Node) : Except Fault o.Value × Node :=
  match o with
  | .addRecord target => (.ok (), { n with records := n.records.insert target.iqn () })
  | .setAutomaticLogin target =>
    if n.records.contains target.iqn then
      (.ok (), { n with automaticLogins := n.automaticLogins.insert target.iqn () })
    else (.error (.command "iscsiadm" (some 21) "No records found"), n)
  | .login target =>
    (.ok (), { n with
      sessions := n.sessions.insert target.iqn ()
      devices := if n.withholdsDevices then n.devices else n.devices.insert target.devicePath () })
  | .logout target =>
    (.ok (), { n with
      sessions := n.sessions.erase target.iqn
      devices := n.devices.erase target.devicePath })
  | .removeRecord target =>
    (.ok (), { n with
      records := n.records.erase target.iqn
      automaticLogins := n.automaticLogins.erase target.iqn })
  | .deviceExists device => (.ok (n.devices.contains device), n)
  | .deviceOpened device => (.ok (n.mounts.any fun e => e.source = device), n)
  | .byPathLink device =>
    match IscsiTarget.ofDevicePath device with
    | .ok _ => (.ok (some device), n)
    | .error _ => (.ok none, n)
  | .formatAndMount device target fsType options =>
    match n.format device fsType with
    | (.error fault, n) => (.error fault, n)
    | (.ok (), n) =>
      match n.record (.mount device target fsType options) with
      | (some fault, n) => (.error fault, n)
      | (none, n) => n.mount device target fsType
  | .mounts => (.ok n.mounts, n)
  | .mount source target fsType _ => n.mount source target fsType
  | .unmount target => n.unmount target

/-- Answers an `Operation`: with the fault that `record` finds, or by `respond`. -/
def operate (o : Operation) (n : Node) : Except Fault o.Value × Node :=
  match n.record o with
  | (some fault, n) => (.error fault, n)
  | (none, n) => n.respond o

/-- The host that will fail one more `Operation` of that name. -/
def failNext (n : Node) (name : String) (fault : Fault) : Node :=
  { n with failures := n.failures.push name fault }

end Node

end VolumeDriver.InMemory
