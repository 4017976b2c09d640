import VolumeDriver.Driver.Basic
import VolumeDriver.Volume.Name
set_option autoImplicit false

/-! # The driver for block volumes -/

namespace VolumeDriver.BlockVolume

/-- Attaches a volume to a node: `resolveNode` finds its instance, `Controller.attach` asks and
    `waitForAttached` waits. -/
def attach (limits : Controller.Limits) (options : Options) (node : String) :
    DriverRun Status := do
  let name ← volumeOf options
  let session ← openSession
  let machine ← onController .resolve (Controller.resolveNode limits session.scope node)
  let id := volumeId session.regionKey name
  let requested ←
    onController .attachment (Controller.attach limits session.compartmentId machine.id id)
  let attachment ← onController .attachment (Controller.waitForAttached limits requested.id)
  let device ← Fallible.wrap .attachment (.ofExcept attachment.devicePath)
  return { Status.success with device := some device }

/-- Detaches a volume from wherever `findAttachment` finds it attached. -/
def detach (limits : Controller.Limits) (volume _node : String) : DriverRun Status := do
  let session ← openSession
  let id := volumeId session.regionKey volume
  let attachment ←
    onController .attachment (Controller.findAttachment limits session.compartmentId id)
  onController .attachment (Controller.detach attachment.id)
  onController .attachment (Controller.waitForDetached limits attachment.id)
  return .success

/-- Tells whether `findAttachment` finds a volume attached. -/
def isAttached (limits : Controller.Limits) (options : Options) (_node : String) :
    DriverRun Status := do
  let name ← volumeOf options
  let session ← openSession
  let id := volumeId session.regionKey name
  match ← (onController .attachment
      (Controller.findAttachment limits session.compartmentId id)).outcome with
  | .ok _ => return { Status.success with attached := true }
  | .error (.attachment (.notFound id)) => return .successWith (AttachmentFault.notFound id).message
  | .error fault => throw fault

/-- Mounts a volume, by `mountVolume`. -/
def mount (wait : DeviceWait) (directory device : String) (options : Options) :
    DriverRun Status := do
  let mountOptions := mountOptions options.readWrite?
  match ← onHost (Host.mountVolume directory device options.fsType mountOptions wait) with
  | .mounted => return .success
  | .alreadyMounted => return .successWith "Device already mounted. Nothing to do."

/-- Unmounts a volume, by `unmountVolume`. -/
def unmount (directory : String) : DriverRun Status := do
  match ← onHost (Host.unmountVolume directory) with
  | .unmounted => return .success
  | .notMounted => return .successWith "Mount point not found. Nothing to do."

/-- The `Driver` for block volumes. -/
def driver (timing : Timing) : Driver where
  init := initDriver
  attach options node := (attach timing.limits options node).answer
  detach volume node := (detach timing.limits volume node).answer
  waitForAttach := confirmDevice
  isAttached options node := (isAttached timing.limits options node).answer
  mountDevice directory device options :=
    (mount timing.deviceWait directory device options).answer
  unmountDevice directory := (unmount directory).answer

end VolumeDriver.BlockVolume
