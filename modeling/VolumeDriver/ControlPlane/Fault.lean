set_option autoImplicit false

/-! # What can go wrong at the control plane

A request is refused (`refused`), never answered (`unanswered`), or answered with something that cannot
be read (`unreadable`). Two statuses of a refusal matter to the driver: a conflict, which says that a
thing is there already, and that a thing is not there.

Listings come in pages, and a driver reads them for as long as a next page is named. Nothing that a control
plane answers is an `endless` fault: it is what the page loops `Controller.foldPages` and
`Controller.findOnPages` end in once they have read as many pages as they are given, so that they end here
whatever they are answered. -/

namespace VolumeDriver.ControlPlane

/-- Why a request did not bring what it asked for. -/
inductive Fault
  | refused (operation : String) (status : Nat) (code message : String)
  | unanswered (operation message : String)
  | unreadable (operation message : String)
  | endless (operation : String) (pages : Nat)
  deriving DecidableEq, Repr

namespace Fault

/-- The status of a refusal that says a thing is there already. -/
def conflictStatus : Nat := 409

/-- The status of a refusal that says a thing is not there. -/
def notFoundStatus : Nat := 404

/-- The `ControlPlane.Fault` in words. -/
def message : Fault → String
  | refused operation status code message =>
    operation ++ " failed with status " ++ toString status ++ " (" ++ code ++ "): " ++ message
  | unanswered operation message => operation ++ " request failed: " ++ message
  | unreadable operation message => "failed to decode " ++ operation ++ " response: " ++ message
  | endless operation pages => operation ++ " gave more than " ++ toString pages ++ " pages"

/-- The status of a refusal; `none` for any other fault. -/
def status? : Fault → Option Nat
  | refused _ status _ _ => some status
  | _ => none

/-- Whether the `status?` is `conflictStatus`: a thing is there already. -/
def isConflict (f : Fault) : Bool :=
  f.status? = some conflictStatus

/-- Whether the `status?` is `notFoundStatus`: a thing is not there. -/
def isNotFound (f : Fault) : Bool :=
  f.status? = some notFoundStatus

end Fault

end VolumeDriver.ControlPlane
