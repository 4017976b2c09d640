import VolumeDriver.Json.Record
set_option autoImplicit false

/-! # The answer to a call-out

Every call-out is answered by one `Status`, printed as one line of JSON. What does not apply to the
call-out is left out of the line. The exit code tells failures from everything else. -/

namespace VolumeDriver

/-- How a call-out ended. -/
inductive Outcome
  | success
  | failure
  /-- the driver leaves the call-out to others -/
  | notSupported
  deriving DecidableEq, Repr

/-- The name of the `Outcome` in the answer. -/
def Outcome.name : Outcome → String
  | .success => "Success"
  | .failure => "Failure"
  | .notSupported => "Not supported"

/-- The outcomes by their names (`Outcome.name`). -/
def Outcome.known : List (String × Outcome) :=
  [.success, .failure, .notSupported].map fun o => (o.name, o)

/-- What the driver can do, told when it is first called. -/
structure Capabilities where
  attach : Bool := false
  canGetVolumeName : Bool := false
  deriving DecidableEq, Repr

/-- The answer to a call-out. -/
structure Status where
  outcome : Outcome
  message : Option String := none
  device : Option String := none
  attached : Bool := false
  volumeName : Option String := none
  capabilities : Option Capabilities := none
  deriving DecidableEq, Repr

namespace Status

/-- A `Status` of success, with nothing to add. -/
def success : Status :=
  { outcome := .success }

/-- A `Status` of success, with a remark. -/
def successWith (message : String) : Status :=
  { outcome := .success, message := some message }

/-- A `Status` of failure, for the reason given. -/
def failure (message : String) : Status :=
  { outcome := .failure, message := some message }

/-- A `Status` that leaves the call-out to others. -/
def notSupported (message : String) : Status :=
  { outcome := .notSupported, message := some message }

/-- One exactly for `Outcome.failure`, zero otherwise. -/
def exitCode (s : Status) : Nat :=
  match s.outcome with
  | .failure => 1
  | .success | .notSupported => 0

end Status

/-! ## As JSON -/

/-- The fields of `Capabilities`. -/
def Capabilities.fields : Json.Fields [Bool, Bool] :=
  .cons (.whenTrue "attach") (.cons (.whenTrue "cangetvolumename") .nil)

/-- Capabilities as JSON. -/
def Capabilities.codec : Json.Codec Capabilities :=
  fields.codec "Capabilities" (fun c => (c.attach, c.canGetVolumeName, ()))
    fun (attach, canGetVolumeName, ()) => ⟨attach, canGetVolumeName⟩

/-- The fields of `Status`. -/
def Status.fields :
    Json.Fields [Outcome, Option String, Option String, Bool, Option String, Option Capabilities] :=
  .cons (.required "status" (.choice Outcome.known Outcome.name)) <|
  .cons (.whenPresent "message" .text) <|
  .cons (.whenPresent "device" .text) <|
  .cons (.whenTrue "attached") <|
  .cons (.whenPresent "volumeName" .text) <|
  .cons (.whenPresent "capabilities" Capabilities.codec) .nil

/-- Answers as JSON. -/
def Status.codec : Json.Codec Status :=
  fields.codec "DriverStatus"
    (fun s => (s.outcome, s.message, s.device, s.attached, s.volumeName, s.capabilities, ()))
    fun (outcome, message, device, attached, volumeName, capabilities, ()) =>
      ⟨outcome, message, device, attached, volumeName, capabilities⟩

/-- The answer as the line that is printed: `Status.codec` on one line. -/
def Status.line (s : Status) : String :=
  Status.codec.encode s

end VolumeDriver
