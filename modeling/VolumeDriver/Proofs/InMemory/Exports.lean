import VolumeDriver.Controller.FileSystemExport
import VolumeDriver.Proofs.InMemory.Binding
set_option autoImplicit false

/-! # The export that serves a target

A target is served by the first live export to it (`Cloud.serving`). To ask for an export serves a
target whose path is not taken, and to look at one lets it move on. -/

namespace VolumeDriver.InMemory

open ControlPlane

/-- Whether an export is to a target and is in place or about to be. -/
def isLiveTo (t : ExportTarget) (e : Export) : Bool :=
  (e.exportSetId = t.mountTarget.exportSetId && e.fileSystemId = t.fileSystem.id) &&
    (e.path = t.path && e.state.isLive)

namespace Cloud

/-- Exports have identifiers of their own, which will not be made up again, and nothing is laid down about
    their states. -/
structure SoundExports (c : Cloud) : Prop where
  ids : (c.exports.map Export.id).Nodup
  fresh : ∀ e ∈ c.exports, ∀ n, c.lastId < n → e.id ≠ madeUpId "export" n
  unscripted : c.exportStates.Drained

/-- The export that serves a target. -/
def serving (c : Cloud) (t : ExportTarget) : Option Export :=
  c.exports.find? (isLiveTo t)

/-- Whether the path of a target is taken. -/
def isTaken (c : Cloud) (t : ExportTarget) : Bool :=
  c.exports.any fun e =>
    e.exportSetId = t.mountTarget.exportSetId && e.path = t.path && e.state.isLive

/-- The export that is made when one is asked for. -/
def newExport (c : Cloud) (t : ExportTarget) : Export :=
  { id := madeUpId "export" (c.lastId + 1), exportSetId := t.mountTarget.exportSetId,
    fileSystemId := t.fileSystem.id, path := t.path, state := .creating }

/-- The cloud with a `newExport`. -/
def withNewExport (c : Cloud) (t : ExportTarget) : Cloud :=
  { c with lastId := c.lastId + 1, exports := c.exports ++ [c.newExport t] }

variable {c : Cloud} {t : ExportTarget} {e : Export} {id : String}

theorem isLiveTo_of_serving (h : c.serving t = some e) : isLiveTo t e := by
  rw [serving] at h
  exact List.find?_some h

theorem mem_of_serving (h : c.serving t = some e) : e ∈ c.exports :=
  List.mem_of_find?_eq_some h

theorem live_of_serving (h : c.serving t = some e) : e.state.isLive := by
  have hlive := isLiveTo_of_serving h
  simp only [isLiveTo, Bool.and_eq_true] at hlive
  exact hlive.2.2

/-- An export is found by its identifier where `SoundExports` holds. -/
theorem SoundExports.find?_id (h : c.SoundExports) (he : e ∈ c.exports) :
    c.exports.find? (isExport e.id) = some e :=
  find?_of_id h.ids he

/-! ## Asking for an export -/

theorem respond_createExport_taken (h : c.isTaken t) :
    c.respond (.createExport t.mountTarget.exportSetId t.fileSystem.id t.path) =
      (.error (conflict "CreateExport" ("export path " ++ t.path ++ " already in use")), c) := by
  simp only [respond, createExport]
  rw [isTaken] at h
  rw [if_pos h]
  rfl

theorem respond_createExport_free (h : ¬c.isTaken t) :
    c.respond (.createExport t.mountTarget.exportSetId t.fileSystem.id t.path) =
      (.ok (c.newExport t), c.withNewExport t) := by
  simp only [respond, createExport]
  rw [isTaken] at h
  rw [if_neg h]
  rfl

/-- A target whose path is not `isTaken` is not served. -/
theorem serving_of_not_taken (h : ¬c.isTaken t) : c.serving t = none := by
  rw [serving, List.find?_eq_none]
  intro e he hlive
  refine h (List.any_eq_true.2 ⟨e, he, ?_⟩)
  simp only [isLiveTo, Bool.and_eq_true] at hlive ⊢
  exact ⟨⟨hlive.1.1, hlive.2.1⟩, hlive.2.2⟩

/-- A `newExport` serves its target. -/
theorem serving_withNewExport (h : c.serving t = none) :
    (c.withNewExport t).serving t = some (c.newExport t) := by
  have hnew : isLiveTo t (c.newExport t) := by
    simp [isLiveTo, newExport, ExportState.isLive]
  rw [serving] at h
  rw [serving, withNewExport, List.find?_append, h, List.find?_singleton, hnew]
  rfl

variable (t) in
/-- The identifier of a `newExport` is not that of another one. -/
theorem SoundExports.find?_newId (h : c.SoundExports) :
    c.exports.find? (isExport (c.newExport t).id) = none := by
  rw [List.find?_eq_none]
  exact fun e he hid => h.fresh e he _ (Nat.lt_succ_self _) (of_decide_eq_true hid)

/-- A `newExport` is found by its identifier. -/
theorem SoundExports.find?_newExport (h : c.SoundExports) :
    (c.withNewExport t).exports.find? (isExport (c.newExport t).id) = some (c.newExport t) := by
  have hnew : isExport (c.newExport t).id (c.newExport t) := decide_eq_true rfl
  rw [withNewExport, List.find?_append, h.find?_newId t, List.find?_singleton, hnew]
  rfl

/-! ## Looking at an export -/

theorem respond_getExport (h : c.exportStates.Drained)
    (he : c.exports.find? (isExport id) = some e) :
    c.respond (.getExport id) = (.ok e, c.setExportState id (nextExportState e.state)) := by
  simp only [respond, getExport, h.pop, he]
  rfl

/-- An export that has come to rest is left as it is by `setExportState`. -/
theorem setExportState_of_eq {state : ExportState} (he : c.exports.find? (isExport id) = some e)
    (hstate : e.state = state) : c.setExportState id state = c := by
  have hf : { e with state } = e := by rw [← hstate]
  rw [setExportState, updateFirst_of_eq he hf]

theorem find?_setExportState {state : ExportState} (he : c.exports.find? (isExport id) = some e) :
    (c.setExportState id state).exports.find? (isExport id) = some { e with state } := by
  have hid : isExport id e := List.find?_some he
  exact find?_updateFirst_self (f := ({ · with state })) he he hid

theorem length_setExportState (id : String) (state : ExportState) :
    (c.setExportState id state).exports.length = c.exports.length :=
  length_updateFirst

/-- An export that stays live goes on `serving` its target. -/
theorem serving_setExportState {state : ExportState} (hs : c.serving t = some e)
    (he : c.exports.find? (isExport e.id) = some e) (hlive : state.isLive) :
    (c.setExportState e.id state).serving t = some { e with state } := by
  have hto := isLiveTo_of_serving hs
  refine find?_updateFirst_self (f := ({ · with state })) hs he ?_
  simp only [isLiveTo, Bool.and_eq_true] at hto ⊢
  exact ⟨hto.1, hto.2.1, hlive⟩

/-- Of two states that `setExportState` gives, the later one counts. -/
theorem setExportState_twice (c : Cloud) (id : String) (state state' : ExportState) :
    (c.setExportState id state).setExportState id state' = c.setExportState id state' := by
  have h := updateFirst_updateFirst (q := isExport id) (f := ({ · with state := state' }))
    (g := ({ · with state })) (l := c.exports) fun _ => rfl
  simp only [setExportState, h]
  rfl

/-- A `newExport` is the last one, and the others do not notice what becomes of it. -/
theorem SoundExports.exports_newExport (h : c.SoundExports) (t : ExportTarget)
    (state : ExportState) :
    ((c.withNewExport t).setExportState (c.newExport t).id state).exports =
      c.exports ++ [{ c.newExport t with state }] :=
  updateFirst_concat (h.find?_newId t) (decide_eq_true rfl)

/-! ## Deleting an export -/

theorem respond_deleteExport (he : c.exports.find? (isExport id) = some e) :
    c.respond (.deleteExport id) = (.ok (), c.setExportState id .deleting) := by
  have hany : c.exports.any (isExport id) = true :=
    List.any_eq_true.2 ⟨e, List.mem_of_find?_eq_some he, List.find?_some he⟩
  simp only [respond, deleteExport, if_pos hany]
  rfl

end Cloud

end VolumeDriver.InMemory
