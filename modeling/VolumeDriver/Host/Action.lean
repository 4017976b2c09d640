import VolumeDriver.Flow
import VolumeDriver.Host.Fault
import VolumeDriver.Host.MountTable
set_option autoImplicit false

/-! # What the host side of a driver does

Mounting and unmounting happen on the host that the volume is attached to and never involve the control
plane. A flow of the host side sees its host only through the `Operation`s here. -/

namespace VolumeDriver.Host

/-- What a host can be asked for. -/
inductive Operation
  /-- puts a target on record with the initiator -/
  | addRecord (target : IscsiTarget)
  /-- has the initiator log in to a target whenever the host starts -/
  | setAutomaticLogin (target : IscsiTarget)
  | login (target : IscsiTarget)
  | logout (target : IscsiTarget)
  | removeRecord (target : IscsiTarget)
  | deviceExists (device : String)
  /-- whether a device is mounted anywhere -/
  | deviceOpened (device : String)
  /-- the path of a device that spells its target, if it has one -/
  | byPathLink (device : String)
  /-- mounts a device, which is formatted first if it holds no file system -/
  | formatAndMount (device target fsType : String) (options : List String)
  | mounts
  | mount (source target fsType : String) (options : List String)
  | unmount (target : String)
  deriving DecidableEq, Repr

/-- What each `Operation` brings if it succeeds. -/
def Operation.Value : Operation → Type
  | deviceExists _ | deviceOpened _ => Bool
  | byPathLink _ => Option String
  | mounts => List MountEntry
  | _ => Unit

/-- What the host side does. -/
inductive Action
  | operate (operation : Operation)
  | pause (milliseconds : Nat)
  deriving DecidableEq, Repr

/-- What each `Action` brings. -/
def Action.Answer : Action → Type
  | operate o => Except Fault o.Value
  | pause _ => Unit

/-- The actions of the host side. -/
def signature : Signature := ⟨Action, Action.Answer⟩

/-- A `Fallible` flow of the host side. -/
abbrev Run (α : Type) : Type := Fallible Fault signature α

/-- One `Operation`. -/
def operate (o : Operation) : Run o.Value :=
  .ofFlow (Flow.perform (S := signature) (.operate o))

/-- A pause. -/
def pause (milliseconds : Nat) : Flow signature Unit :=
  Flow.perform (S := signature) (.pause milliseconds)

/-- What is mounted on top at a directory, by `MountTable.top?`. -/
def mountAt (path : String) : Run (Option MountEntry) := do
  let table : List MountEntry ← operate .mounts
  return MountTable.top? table path

end VolumeDriver.Host
