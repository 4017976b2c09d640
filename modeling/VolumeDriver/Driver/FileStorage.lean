import VolumeDriver.Driver.Basic
set_option autoImplicit false

/-! # The driver for file systems -/

namespace VolumeDriver.FileStorage

/-- Finds out where a file system is exported, or would be, by `resolveTarget`. -/
def target (limits : Controller.Limits) (session : Session) (fileSystemId : String) :
    DriverRun ExportTarget :=
  onController .export (Controller.resolveTarget limits session.compartmentId fileSystemId)

/-- Exports a file system with `createExport`; every node can then mount it. -/
def attach (limits : Controller.Limits) (options : Options) (_node : String) :
    DriverRun Status := do
  let fileSystemId ← volumeOf options
  let session ← openSession
  let target ← target limits session fileSystemId
  let requested ← onController .export (Controller.createExport limits target)
  let _ ← onController .export (Controller.waitForActive limits requested.id)
  return { Status.success with device := some target.path }

/-- Undoes the export of a file system, by `deleteExport`. -/
def detach (limits : Controller.Limits) (fileSystemId _node : String) : DriverRun Status := do
  let session ← openSession
  let target ← target limits session fileSystemId
  onController .export (Controller.deleteExport limits target)
  return .successWith ("Detach " ++ target.fileSystem.id ++ " from " ++ target.mountTarget.id)

/-- Tells whether a file system is exported, by `isExported`. -/
def isAttached (limits : Controller.Limits) (options : Options) (_node : String) :
    DriverRun Status := do
  let fileSystemId ← volumeOf options
  let session ← openSession
  let target ← target limits session fileSystemId
  let attached ← onController .export (Controller.isExported limits target)
  return { Status.success with attached }

/-- Mounts an export, by `mountExport`. -/
def mount (directory device : String) (options : Options) : DriverRun Status := do
  match ← onHost (Host.mountExport directory device (mountOptions options.readWrite?)) with
  | .mounted => return .success
  | .alreadyMounted => return .successWith "Export already mounted. Nothing to do."

/-- Unmounts an export, by `unmountExport`. -/
def unmount (directory : String) : DriverRun Status := do
  onHost (Host.unmountExport directory)
  return .successWith ("UnmountDevice:" ++ directory)

/-- The `Driver` for file systems. -/
def driver (timing : Timing) : Driver where
  init := initDriver
  attach options node := (attach timing.limits options node).answer
  detach volume node := (detach timing.limits volume node).answer
  waitForAttach := confirmDevice
  isAttached options node := (isAttached timing.limits options node).answer
  mountDevice directory device options := (mount directory device options).answer
  unmountDevice directory := (unmount directory).answer

end VolumeDriver.FileStorage
