import VolumeDriver.Driver.FileStorage
import VolumeDriver.Proofs.Controller.Requests
import VolumeDriver.Proofs.InMemory.Orderly
import VolumeDriver.Proofs.InMemory.Settled
import VolumeDriver.Proofs.InMemory.Sides
set_option autoImplicit false

/-! # What call-outs about exports ask for

To find out where a file system is exported, a flow only asks for what no call-out changes (`LooksUp`). When
it knows the target, it asks for an export there and nowhere else (`Concerns`). So exports stay orderly
throughout such a call-out, and not only from one call-out to the next. -/

namespace VolumeDriver.InMemory

open ControlPlane Controller

/-- The action asks for something that no call-out changes. -/
def LooksUp : Controller.signature.Action → Prop
  | .exchange x => Cloud.AsksForFixed x
  | .connect => True
  | _ => False

/-- The action does not ask for an export anywhere but at the target `t`. -/
def Concerns (t : ExportTarget) : Controller.signature.Action → Prop
  | .exchange (.createExport exportSetId fileSystemId path) =>
    exportSetId = t.mountTarget.exportSetId ∧ fileSystemId = t.fileSystem.id ∧ path = t.path
  | _ => True

theorem LooksUp.concerns {action : Controller.signature.Action} (h : LooksUp action)
    (t : ExportTarget) : Concerns t action := by
  cases action with
  | exchange x => cases x <;> trivial
  | _ => trivial

section Controller

variable (limits : Limits)

/-- In `resolveTarget`, what call-outs change is not looked at. -/
theorem only_resolveTarget (compartmentId fileSystemId : String) :
    Fallible.Only LooksUp (resolveTarget limits compartmentId fileSystemId) := by
  refine ((only_request (x := .getFileSystem _) trivial).wrap _).bind fun fileSystem => ?_
  refine Fallible.Only.bind ?_ fun mountTarget => ?_
  · refine (only_findOnPages (Fallible.only_throw _)
      (fun page => (only_request (x := .listMountTargets _ _ page) trivial).wrap _) _ _).bind
        fun found => ?_
    cases found with
    | some found => exact Fallible.only_pure _
    | none => exact Fallible.only_throw _
  · split
    · exact Fallible.only_throw _
    · exact ((only_request (x := .getPrivateIp _) trivial).wrap _).bind fun _ =>
        Fallible.only_pure _

variable (t : ExportTarget)

theorem only_findExport : Fallible.Only (Concerns t) (findExport limits t) :=
  only_findOnPages (Fallible.only_throw _)
    (fun page => (only_request (x := .listExports _ _ page) trivial).wrap _) _ _

theorem only_createExport : Fallible.Only (Concerns t) (createExport limits t) := by
  refine (only_findExport limits t).bind fun found => ?_
  cases found with
  | some existing => exact Fallible.only_pure _
  | none =>
    refine (only_request (x := .createExport _ _ _) ⟨rfl, rfl, rfl⟩).outcome.bind fun answer => ?_
    cases answer with
    | ok created => exact Fallible.only_pure _
    | error fault =>
      dsimp only
      split
      · refine (only_findExport limits t).bind fun found => ?_
        cases found with
        | some existing => exact Fallible.only_pure _
        | none => exact Fallible.only_throw _
      · exact Fallible.only_throw _

theorem only_waitForActive (id : String) : Fallible.Only (Concerns t) (waitForActive limits id) := by
  refine only_pollTimes ?_ (fun _ => trivial) _
  refine ((only_request (x := .getExport id) trivial).wrap _).bind fun found => ?_
  split
  · exact Fallible.only_pure _
  · exact Fallible.only_pure _
  · exact Fallible.only_throw _

theorem only_waitForDeleted (id : String) : Fallible.Only (Concerns t) (waitForDeleted limits id) := by
  refine only_pollTimes ?_ (fun _ => trivial) _
  refine (only_request (x := .getExport id) trivial).outcome.bind fun answer => ?_
  cases answer with
  | error fault =>
    dsimp only
    split
    · exact Fallible.only_pure _
    · exact Fallible.only_throw _
  | ok found =>
    dsimp only
    split
    · exact Fallible.only_pure _
    · exact Fallible.only_pure _
    · exact Fallible.only_throw _

theorem only_deleteExport : Fallible.Only (Concerns t) (deleteExport limits t) := by
  refine (only_findExport limits t).bind fun found => ?_
  cases found with
  | none => exact Fallible.only_throw _
  | some found =>
    refine ((only_request (x := .deleteExport found.id) trivial).wrap _).bind fun _ => ?_
    exact only_waitForDeleted limits t found.id

theorem only_isExported : Fallible.Only (Concerns t) (isExported limits t) := by
  refine (only_findExport limits t).bind fun found => ?_
  cases found with
  | some found => exact Fallible.only_pure _
  | none => exact Fallible.only_pure _

end Controller

/-! ## Exports stay orderly -/

section Orderly

variable {targets : String → ExportTarget} {used : String → Prop} {w : World}

/-- The target `t` is the one that `targets` gives its file system. -/
structure IsTarget (targets : String → ExportTarget) (used : String → Prop) (t : ExportTarget) :
    Prop where
  used : used t.fileSystem.id
  same : targets t.fileSystem.id = t

/-- An action that `Concerns` the target of a file system keeps exports `Cloud.Orderly`. -/
theorem orderly_act {t : ExportTarget} (ht : IsTarget targets used t) {action : driverSignature.Action}
    (haction : ControlAction (Concerns t) action) (h : w.cloud.Orderly targets used) :
    (w.act action).2.cloud.Orderly targets used := by
  rcases action with action | action
  · cases action with
    | exchange x =>
      refine h.exchange ?_
      cases x with
      | createExport exportSetId fileSystemId path =>
        obtain ⟨rfl, rfl, rfl⟩ := haction
        exact ⟨ht.used, by rw [ht.same], by rw [ht.same]⟩
      | _ => trivial
    | _ => exact h
  · cases haction

/-- Exports stay `Cloud.Orderly` throughout a flow of which every action `Concerns` the target of a file
    system. -/
theorem throughout_concerns {t : ExportTarget} (ht : IsTarget targets used t) {α : Type}
    {m : DriverRun α} (hm : Fallible.Only (ControlAction (Concerns t)) m)
    (h : w.cloud.Orderly targets used) :
    Fallible.Throughout World.act (fun v => v.cloud.Orderly targets used) m w :=
  Flow.Only.throughout hm (fun _ _ haction hv => orderly_act ht haction hv) h

end Orderly

end VolumeDriver.InMemory
