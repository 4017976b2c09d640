import VolumeDriver.Config.Basic
import VolumeDriver.ControlPlane.Exchange
import VolumeDriver.Flow
set_option autoImplicit false

/-! # What the controller side of a driver does

Attaching and detaching happen between the driver and the control plane. The driver first connects,
which brings a `Session`; then it exchanges requests, pauses between them, and keeps a file of what it
has learnt about network interfaces. -/

namespace VolumeDriver

/-- A `Config` to work with, and where the cache of network interfaces is kept. -/
structure Session where
  config : Config
  cachePath : String
  deriving DecidableEq, Repr

/-- The compartment of the cluster. -/
def Session.compartmentId (s : Session) : String :=
  s.config.auth.compartment

/-- The short key of the region. -/
def Session.regionKey (s : Session) : String :=
  s.config.auth.regionKey

/-- The network of the cluster. -/
def Session.vcnId (s : Session) : String :=
  s.config.auth.vcn

/-- Why there is no session. -/
inductive ConnectFault
  | config (fault : Config.Fault)
  | controlPlane (fault : ControlPlane.Fault)
  deriving DecidableEq, Repr

namespace Controller

/-- What the controller side does. -/
inductive Action
  | connect
  | exchange (exchange : ControlPlane.Exchange)
  | pause (milliseconds : Nat)
  /-- opens the file for reading and writing, and makes an empty one if there is none -/
  | openCache (path : String)
  | saveCache (path content : String)
  deriving DecidableEq, Repr

/-- What each `Action` brings. The faults of files are told in words. -/
def Action.Answer : Action → Type
  | connect => Except ConnectFault Session
  | exchange e => Except ControlPlane.Fault e.Answer
  | pause _ => Unit
  | openCache _ => Except String (List UInt8)
  | saveCache _ _ => Except String Unit

/-- The actions of the controller side. -/
def signature : Signature := ⟨Action, Action.Answer⟩

/-- A `Fallible` flow of the controller side. -/
abbrev Run (ε α : Type) : Type := Fallible ε signature α

/-- One `ControlPlane.Exchange`. -/
def request (e : ControlPlane.Exchange) : Run ControlPlane.Fault e.Answer :=
  .ofFlow (Flow.perform (S := signature) (.exchange e))

/-- A pause. -/
def pause (milliseconds : Nat) : Flow signature Unit :=
  Flow.perform (S := signature) (.pause milliseconds)

/-- A `Session`, or why there is none. -/
def connect : Run ConnectFault Session :=
  .ofFlow (Flow.perform (S := signature) .connect)

end Controller

end VolumeDriver
