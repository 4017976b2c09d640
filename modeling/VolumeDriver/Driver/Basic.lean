import VolumeDriver.Driver.Fault
set_option autoImplicit false

/-! # Drivers

A `Driver` answers every call-out with a flow; `Driver.dispatch` picks the flow of a call-out. The
answers to three verbs are the same for all drivers: devices are mounted for a whole host and not for
single pods, and names are left to the orchestrator. -/

namespace VolumeDriver

/-- The actions of both sides of a driver: `Controller.signature` and `Host.signature`. -/
def driverSignature : Signature :=
  Controller.signature.sum Host.signature

/-- A `Fallible` flow of a driver. -/
abbrev DriverRun (α : Type) : Type := Fallible DriverFault driverSignature α

/-- A `Controller.Run` as a flow of the driver, with its faults wrapped. -/
def onController {ε α : Type} (wrap : ε → DriverFault) (m : Controller.Run ε α) : DriverRun α :=
  Fallible.wrap wrap (.ofFlow m.run.inLeft)

/-- A `Host.Run` as a flow of the driver, with its faults as `DriverFault.host`. -/
def onHost {α : Type} (m : Host.Run α) : DriverRun α :=
  Fallible.wrap .host (.ofFlow m.run.inRight)

/-- The flow of a driver's answer, a `Status`. -/
abbrev Answering : Type := Flow driverSignature Status

/-- The `Status` that a flow comes to, by `DriverFault.answer`. -/
def DriverRun.answer (m : DriverRun Status) : Answering :=
  DriverFault.answer <$> m.run

/-- The flows that answer the verbs. -/
structure Driver where
  init : Answering
  attach : (options : Options) → (node : String) → Answering
  detach : (volume node : String) → Answering
  waitForAttach : (device : String) → (options : Options) → Answering
  isAttached : (options : Options) → (node : String) → Answering
  mountDevice : (directory device : String) → (options : Options) → Answering
  unmountDevice : (directory : String) → Answering
  mount : (directory : String) → (options : Options) → Answering :=
    fun _ _ => pure (.notSupported "mount is handled by mountdevice")
  unmount : (directory : String) → Answering :=
    fun _ => pure (.notSupported "unmount is handled by unmountdevice")
  getVolumeName : (options : Options) → Answering :=
    fun _ => pure (.notSupported "getvolumename is not supported")

/-- The flow of the driver that answers a `CallOut`. -/
def Driver.dispatch (d : Driver) : CallOut → Answering
  | .init => d.init
  | .getVolumeName options => d.getVolumeName options
  | .attach options node => d.attach options node
  | .detach volume node => d.detach volume node
  | .waitForAttach device options => d.waitForAttach device options
  | .isAttached options node => d.isAttached options node
  | .mountDevice directory device options => d.mountDevice directory device options
  | .unmountDevice directory => d.unmountDevice directory
  | .mount directory options => d.mount directory options
  | .unmount directory => d.unmount directory

/-! ## What the drivers share -/

/-- The `Capabilities` of every driver. -/
def driverCapabilities : Capabilities :=
  { attach := true, canGetVolumeName := false }

/-- A `Session` for a call-out. -/
def openSession : DriverRun Session :=
  onController .connect Controller.connect

/-- The name of the volume that options are about; `DriverFault.missingVolumeName` if they name none. -/
def volumeOf (options : Options) : DriverRun String :=
  match options.volumeName? with
  | some name => pure name
  | none => throw .missingVolumeName

/-- The answer to `init`. Only the controller has a configuration, so a host that has none is as it
    should be. -/
def initAnswer : Except DriverFault Session → Status
  | .ok _ | .error (.connect (.config (.notFound _))) =>
    { Status.success with capabilities := some driverCapabilities }
  | .error fault => .failure fault.message

/-- Answers `init`. -/
def initDriver : Answering :=
  initAnswer <$> openSession.run

/-- Answers that a device is there; it is waited for when it is mounted. -/
def confirmDevice (device : String) (_options : Options) : Answering :=
  pure { Status.success with device := some device }

/-- The bounds of a driver: `limits` on the controller side, and the wait for a device on the host. -/
structure Timing where
  limits : Controller.Limits := {}
  deviceWait : DeviceWait := {}
  deriving DecidableEq, Repr

end VolumeDriver
