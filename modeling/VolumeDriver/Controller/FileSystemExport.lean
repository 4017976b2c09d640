import VolumeDriver.Controller.Patience
set_option autoImplicit false

/-! # Exports of file systems

Attaching a file system means exporting it through the mount target of its availability domain. The
`exportPath` is made of the target's address and the file system's identifier, so `resolveTarget` can tell
it again at any time without its having been remembered. -/

namespace VolumeDriver

/-- Why an export is not where it should be. -/
inductive ExportFault
  | controlPlane (fault : ControlPlane.Fault)
  | noMountTarget (availabilityDomain : String)
  | noPrivateIps (mountTargetId : String)
  | notFound (fileSystemId path : String)
  | unexpectedState (state : ExportState) (action : String)
  | retriesExceeded (retries : Nat) (action : String)
  deriving DecidableEq, Repr

/-- The `ExportFault` in words. -/
def ExportFault.message : ExportFault → String
  | controlPlane fault => fault.message
  | noMountTarget domain => "no active mount target in availability domain " ++ domain
  | noPrivateIps mountTargetId => "mount target " ++ mountTargetId ++ " has zero private IPs"
  | notFound fileSystemId path =>
    "failed to find export '" ++ path ++ "' for file system '" ++ fileSystemId ++ "'"
  | unexpectedState state action =>
    "unexpected state '" ++ state.text ++ "' while waiting for export " ++ action
  | retriesExceeded retries action =>
    "maximum number of retries (" ++ toString retries ++ ") exceeded " ++ action ++ " export"

/-- The path under which a file system is exported at an address. -/
def exportPath (address fileSystemId : String) : String :=
  "/mnt/" ++ address ++ "/" ++ fileSystemId

/-- Where a file system is exported, or would be. -/
structure ExportTarget where
  fileSystem : FileSystem
  mountTarget : MountTarget
  /-- the first address of the mount target -/
  address : String
  deriving DecidableEq, Repr

/-- The path of the export, which is also the device that the file system is mounted from. -/
def ExportTarget.path (t : ExportTarget) : String :=
  exportPath t.address t.fileSystem.id

namespace Controller

/-- A `request` about exports. -/
def requestExport (e : ControlPlane.Exchange) : Run ExportFault e.Answer :=
  (request e).wrap .controlPlane

/-- The first mount target of an availability domain that is active. -/
def activeMountTarget (limits : Limits) (compartmentId domain : String) :
    Run ExportFault MountTarget := do
  let list page := requestExport (.listMountTargets compartmentId domain page)
  let endless := throw (.controlPlane (.endless "ListMountTargets" limits.pages))
  match ← findOnPages endless list (fun t => t.state = .active) limits.pages none with
  | some found => return found
  | none => throw (.noMountTarget domain)

/-- Finds the `ExportTarget` of a file system: where it is exported, or would be. -/
def resolveTarget (limits : Limits) (compartmentId fileSystemId : String) :
    Run ExportFault ExportTarget := do
  let fileSystem : FileSystem ← requestExport (.getFileSystem fileSystemId)
  let mountTarget ← activeMountTarget limits compartmentId fileSystem.availabilityDomain
  match mountTarget.privateIpIds with
  | [] => throw (.noPrivateIps mountTarget.id)
  | id :: _ =>
    let privateIp : PrivateIp ← requestExport (.getPrivateIp id)
    return ⟨fileSystem, mountTarget, privateIp.ipAddress⟩

/-- The first export to a target that is in place or about to be (`ExportState.isLive`). -/
def findExport (limits : Limits) (target : ExportTarget) : Run ExportFault (Option Export) :=
  let list page :=
    requestExport (.listExports target.mountTarget.exportSetId target.fileSystem.id page)
  let endless := throw (.controlPlane (.endless "ListExports" limits.pages))
  findOnPages endless list (fun e => e.path = target.path && e.state.isLive) limits.pages none

/-- Exports a file system, unless `findExport` finds it exported already. If someone else was faster, theirs
    will do. -/
def createExport (limits : Limits) (target : ExportTarget) : Run ExportFault Export := do
  match ← findExport limits target with
  | some existing => return existing
  | none =>
    let set := target.mountTarget.exportSetId
    match ← (request (.createExport set target.fileSystem.id target.path)).outcome with
    | .ok created => return created
    | .error fault =>
      if fault.isConflict then
        match ← findExport limits target with
        | some existing => return existing
        | none => throw (.controlPlane fault)
      else throw (.controlPlane fault)

/-- Waits until an export is `ExportState.active`. -/
def waitForActive (limits : Limits) (id : String) : Run ExportFault Export :=
  poll limits.poll (.retriesExceeded limits.poll.retries "creating") do
    let found : Export ← requestExport (.getExport id)
    match found.state with
    | .creating => return none
    | .active => return some found
    | state => throw (.unexpectedState state "create")

/-- Waits until an export is `ExportState.deleted`, or not there any more. -/
def waitForDeleted (limits : Limits) (id : String) : Run ExportFault Unit :=
  poll limits.poll (.retriesExceeded limits.poll.retries "deleting") do
    match ← (request (.getExport id)).outcome with
    | .error fault => if fault.isNotFound then return some () else throw (.controlPlane fault)
    | .ok found =>
      match Export.state found with
      | .deleting => return none
      | .deleted => return some ()
      | state => throw (.unexpectedState state "delete")

/-- Undoes the export that `findExport` finds, and waits until it is gone. -/
def deleteExport (limits : Limits) (target : ExportTarget) : Run ExportFault Unit := do
  match ← findExport limits target with
  | none => throw (.notFound target.fileSystem.id target.path)
  | some found =>
    requestExport (.deleteExport found.id)
    waitForDeleted limits found.id

/-- Whether `findExport` finds an export of a file system that is in place. -/
def isExported (limits : Limits) (target : ExportTarget) : Run ExportFault Bool := do
  match ← findExport limits target with
  | some found => return found.state = .active
  | none => return false

end Controller

end VolumeDriver
