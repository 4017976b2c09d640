import VolumeDriver.Host.Action
set_option autoImplicit false

/-! # Mounting and unmounting block volumes

To mount a volume with `mountVolume` the host logs in to its target, waits for the device to appear and
mounts it, and formats it before if it holds no file system. To unmount it with `unmountVolume` the host
undoes the mount and the login; what there is to undo is read off the mount table. -/

namespace VolumeDriver

/-- How often, and how far apart, a host looks for a device. -/
structure DeviceWait where
  attempts : Nat := 20
  interval : Nat := 1000
  deriving DecidableEq, Repr

/-- How a mount ended. -/
inductive MountOutcome
  | mounted
  | alreadyMounted
  deriving DecidableEq, Repr

/-- How an unmount ended. -/
inductive UnmountOutcome
  | unmounted
  | notMounted
  deriving DecidableEq, Repr

/-- The mount options for an access mode. -/
def mountOptions (readWrite : Option String) : List String :=
  if readWrite = some "ro" then ["ro"] else []

namespace Host

/-- Looks for a device until it is there, with a `pause` between two looks. -/
def lookForDevice (device : String) (interval : Nat) (exhausted : Fault) : (attempts : Nat) → Run Unit
  | 0 => throw exhausted
  | attempts + 1 => do
    let found : Bool ← operate (.deviceExists device)
    if found then return ()
    else
      if attempts ≠ 0 then pause interval
      lookForDevice device interval exhausted attempts

/-- Waits for a device to appear, as `lookForDevice` looks for it. -/
def waitForDevice (device : String) (wait : DeviceWait) : Run Unit :=
  lookForDevice device wait.interval (.deviceMissing device wait.attempts) wait.attempts

/-- Mounts a volume: logs in to its target, has `waitForDevice` wait for the device and mounts it. A device
    that is mounted somewhere is left alone. -/
def mountVolume (directory device fsType : String) (options : List String) (wait : DeviceWait) :
    Run MountOutcome := do
  let target ← .ofExcept (targetOf device)
  let opened : Bool ← operate (.deviceOpened device)
  if opened then return .alreadyMounted
  else
    operate (.addRecord target)
    operate (.setAutomaticLogin target)
    operate (.login target)
    waitForDevice device wait
    operate (.formatAndMount device directory fsType options)
    return .mounted

/-- Unmounts a volume. A directory at which `mountAt` finds nothing is left alone. -/
def unmountVolume (directory : String) : Run UnmountOutcome := do
  match ← mountAt directory with
  | none => return .notMounted
  | some entry =>
    let link : Option String ← operate (.byPathLink entry.source)
    match link with
    | none => throw (.notIscsi entry.source directory)
    | some link =>
      let target ← .ofExcept (targetOf link)
      operate (.unmount directory)
      operate (.logout target)
      operate (.removeRecord target)
      return .unmounted

end Host

end VolumeDriver
