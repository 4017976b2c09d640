import VolumeDriver.Proofs.FileStorage.Leads
import VolumeDriver.Proofs.FileStorage.Requests
set_option autoImplicit false

/-! # What call-outs for file systems ask for

Each of them finds out where its file system is exported, and all that it asks for then `Concerns` that
target. -/

namespace VolumeDriver.InMemory

open ControlPlane Controller

variable {p : Picture} {limits : Limits} {name : String} {session : Session} {t : ExportTarget}

section Only

variable (limits t)

theorem only_exportTo : Fallible.Only (ControlAction (Concerns t)) (exportTo limits t) := by
  refine (only_onController_action (only_createExport limits t) _).bind fun requested => ?_
  refine (only_onController_action (only_waitForActive limits t requested.id) _).bind fun _ => ?_
  exact Fallible.only_pure _

theorem only_undoExport : Fallible.Only (ControlAction (Concerns t)) (undoExport limits t) :=
  (only_onController_action (only_deleteExport limits t) _).bind fun _ => Fallible.only_pure _

theorem only_tellExport : Fallible.Only (ControlAction (Concerns t)) (tellExport limits t) :=
  (only_onController_action (only_isExported limits t) _).bind fun _ => Fallible.only_pure _

end Only

/-- What `openSession` asks for concerns any target. -/
theorem only_openSession_concerns (t : ExportTarget) :
    Fallible.Only (ControlAction (Concerns t)) openSession := by
  have hconnect : Fallible.Only (Concerns t) Controller.connect :=
    Flow.only_perform (S := Controller.signature) (P := Concerns t) trivial
  exact only_onController_action hconnect _

theorem only_target_concerns (limits : Limits) (session : Session) (name : String)
    (t : ExportTarget) :
    Fallible.Only (ControlAction (Concerns t)) (FileStorage.target limits session name) :=
  only_onController_action
    (Flow.Only.mono (only_resolveTarget limits session.compartmentId name) fun _ h => h.concerns t) _

section AboutTarget

variable {rest : ExportTarget → DriverRun Status} (hsession : p.session = .ok session)
  (hresolve : ControllerLeads p (resolveTarget limits session.compartmentId name) (.ok t) p (· = p))

include hsession hresolve

/-- Exports stay `Cloud.Orderly` throughout a call-out about the target of a file system. -/
theorem throughout_aboutTarget {targets : String → ExportTarget} {used : String → Prop}
    (ht : IsTarget targets used t) (hrest : Fallible.Only (ControlAction (Concerns t)) (rest t))
    {w : World} (hw : w.Calm) (hp : w.picture = p) (h : w.cloud.Orderly targets used) :
    Fallible.Throughout World.act (fun v => v.cloud.Orderly targets used)
      (aboutTarget limits name rest) w := by
  have hopen := (leads_openSession (E := (· = p)) hsession).runs hw hp
  have htarget := (leads_onController hresolve .export).runs hopen.2.1 hopen.2.2
  refine (throughout_concerns ht (only_openSession_concerns t) h).bind fun opened w₁ hrun₁ h₁ => ?_
  rw [hrun₁] at hopen htarget
  obtain rfl : opened = session := by
    have hsame := hopen.1
    cases hsame
    rfl
  refine (throughout_concerns ht (only_target_concerns limits opened name t) h₁).bind
    fun found w₂ hrun₂ h₂ => ?_
  rw [show Fallible.runs World.act (onController DriverFault.export
    (resolveTarget limits opened.compartmentId name)) w₁ = (.ok found, w₂) from hrun₂] at htarget
  obtain rfl : found = t := by
    have hsame := htarget.1
    cases hsame
    rfl
  exact throughout_concerns ht hrest h₂

end AboutTarget

end VolumeDriver.InMemory
