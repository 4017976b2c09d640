import VolumeDriver.Driver.BlockVolume
import VolumeDriver.Proofs.Controller.Requests
import VolumeDriver.Proofs.InMemory.Sides
set_option autoImplicit false

/-! # By which identifiers volumes are asked for

A call-out names its block volume as the orchestrator knows it, and the control plane knows the volume by an
identifier. `BlockVolume.attach`, `BlockVolume.detach` and `BlockVolume.isAttached` ask for the volume that
`volumeId` makes of the name and of the region key of their session, whatever they are answered, and for no
other volume. -/

namespace VolumeDriver.BlockVolume

open ControlPlane Controller InMemory

/-- The action asks for no other volume than the one with this `id`. -/
def AsksFor (id : String) : Controller.signature.Action → Prop
  | .exchange (.attachVolume _ volumeId) | .exchange (.listVolumeAttachments _ volumeId _) => volumeId = id
  | _ => True

theorem asksFor_of_searchesNode {action : Controller.Action} (h : SearchesNode action) (id : String) :
    AsksFor id action := by
  cases action with
  | exchange x => cases x <;> trivial
  | _ => trivial

/-- The flow opens a session, and with `session` it asks for no other volume than one. -/
def AsksAfter (session : Session) (id : String) (m : DriverRun Status) : Prop :=
  ∃ rest : Session → DriverRun Status, m = openSession >>= rest ∧
    Fallible.Only (ControlAction (AsksFor id)) (rest session)

/-- With `session` every call-out for a volume asks for the one that `volumeId` makes of its name and `key`. -/
structure AsksByKey (session : Session) (key : String) : Prop where
  attach (limits : Limits) (options : Options) (node : String) {name : String}
    (hname : options.volumeName? = some name) :
    AsksAfter session (volumeId key name) (BlockVolume.attach limits options node)
  detach (limits : Limits) (volume node : String) :
    AsksAfter session (volumeId key volume) (BlockVolume.detach limits volume node)
  isAttached (limits : Limits) (options : Options) (node : String) {name : String}
    (hname : options.volumeName? = some name) :
    AsksAfter session (volumeId key name) (BlockVolume.isAttached limits options node)

section

variable {ε α : Type} {id : String}

/-- A flow of the controller side that `AsksFor` one volume does so as one of the driver's. -/
theorem only_asksFor {m : Controller.Run ε α} (hm : Fallible.Only (AsksFor id) m)
    (wrap : ε → DriverFault) : Fallible.Only (ControlAction (AsksFor id)) (onController wrap m) :=
  only_onController_action hm wrap

end

/-- **Volumes are asked for by the region key of the session's configuration**,
    `session.config.auth.regionKey`. -/
theorem asksByKey (session : Session) : AsksByKey session session.config.auth.regionKey where
  attach limits options node name hname := by
    refine ⟨_, by rw [BlockVolume.attach, volumeOf, hname]; rfl, ?_⟩
    have hresolve := (only_resolveNode limits session.scope node).mono
      fun _ h => asksFor_of_searchesNode h (volumeId session.regionKey name)
    refine (only_asksFor hresolve _).bind fun machine => ?_
    refine (only_asksFor (only_attach rfl fun _ => rfl) _).bind fun requested => ?_
    refine (only_asksFor (only_waitForAttached trivial fun _ => trivial) _).bind
      fun attachment => ?_
    exact ((Fallible.only_ofExcept _).wrap _).bind fun device => Fallible.only_pure _
  detach limits volume node := by
    refine ⟨_, rfl, ?_⟩
    refine (only_asksFor (only_findAttachment fun _ => rfl) _).bind fun attachment => ?_
    refine (only_asksFor (only_requestAttachment (x := .detachVolume _) trivial) _).bind fun _ => ?_
    exact (only_asksFor (only_waitForDetached trivial fun _ => trivial) _).bind
      fun _ => Fallible.only_pure _
  isAttached limits options node name hname := by
    refine ⟨_, by rw [BlockVolume.isAttached, volumeOf, hname]; rfl, ?_⟩
    refine (only_asksFor (only_findAttachment fun _ => rfl) _).outcome.bind fun found => ?_
    split
    · exact Fallible.only_pure _
    · exact Fallible.only_pure _
    · exact Fallible.only_throw _

end VolumeDriver.BlockVolume
