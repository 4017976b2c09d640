import VolumeDriver.Proofs.InMemory.Picture
set_option autoImplicit false

/-! # Worlds in which faults come in the way

A `Disturbed` world answers as the world does, but the faults it lists come in the way of its next
exchanges: any fault, at any of them. What meets a fault has done nothing, and what meets none is
answered as the picture of the world says. -/

namespace VolumeDriver.InMemory

open ControlPlane

/-- A world, and the faults that come in the way of exchanges. -/
structure Disturbed where
  world : World
  /-- for each of the next exchanges the fault that comes in its way, if there is one -/
  faults : List (Option Fault) := []

namespace Disturbed

/-- The control plane as the next exchange finds it. -/
def cloudFor (d : Disturbed) (e : Exchange) : Cloud :=
  match d.faults with
  | some fault :: _ => d.world.cloud.failNext e.operation fault
  | _ => d.world.cloud

/-- Answers an exchange. -/
def exchange (d : Disturbed) (e : Exchange) : Except Fault e.Answer × Disturbed :=
  let (answer, cloud) := (d.cloudFor e).exchange e
  (answer, ⟨{ d.world with cloud }, d.faults.tail⟩)

/-- Answers an action of either side. -/
def act (action : driverSignature.Action) (d : Disturbed) :
    driverSignature.Answer action × Disturbed :=
  match action with
  | .inl (.exchange e) => d.exchange e
  | action =>
    let (answer, world) := d.world.act action
    (answer, { d with world })

/-- Answers an action of the controller side. -/
def control (action : Controller.signature.Action) (d : Disturbed) :
    Controller.signature.Answer action × Disturbed :=
  act (.inl action) d

/-- A fault is to come. -/
def Faulty (d : Disturbed) : Prop :=
  ∃ fault, some fault ∈ d.faults

/-- Without faults a `Disturbed` world is the world. -/
theorem act_undisturbed (action : driverSignature.Action) (w : World) :
    act action ⟨w, []⟩ = ((w.act action).1, ⟨(w.act action).2, []⟩) := by
  rcases action with action | action
  · cases action <;> rfl
  · rfl

theorem run_undisturbed {α : Type} (m : Flow driverSignature α) (w : World) :
    m.run act ⟨w, []⟩ = ((m.run World.act w).1, ⟨(m.run World.act w).2, []⟩) := by
  induction m generalizing w with
  | done a => rfl
  | ask action next ih =>
    rw [Flow.run, act_undisturbed]
    exact ih _ _

/-- What an `exchange` comes to that meets a fault. -/
theorem exchange_faulted {d : Disturbed} (h : d.world.Calm) (e : Exchange) {fault : Fault}
    {rest : List (Option Fault)} (hf : d.faults = some fault :: rest) :
    d.exchange e = (.error fault, ⟨{ d.world with cloud :=
      { d.world.cloud with
        failures := d.world.cloud.failures.insert e.operation []
        calls := d.world.cloud.calls ++ [e.operation] } }, rest⟩) := by
  have hcloud : d.cloudFor e = d.world.cloud.failNext e.operation fault := by
    rw [cloudFor, hf]
  simp only [exchange, hcloud, Cloud.exchange, Cloud.failNext]
  rw [Dictionary.Drained.pop_push h, hf]
  rfl

/-- What an `exchange` comes to that meets no fault. -/
theorem exchange_answered {d : Disturbed} (h : d.world.Calm) (e : Exchange)
    (hf : ∀ fault rest, d.faults ≠ some fault :: rest) :
    d.exchange e = ((d.world.cloud.respond e).1, ⟨{ d.world with cloud :=
      { (d.world.cloud.respond e).2 with
        failures := d.world.cloud.failures
        calls := d.world.cloud.calls ++ [e.operation] } }, d.faults.tail⟩) := by
  have hcloud : d.cloudFor e = d.world.cloud := by
    rw [cloudFor]
    split
    · exact absurd ‹_› (hf _ _)
    · rfl
  simp only [exchange, hcloud, Cloud.exchange, Dictionary.Drained.pop h]
  rw [Cloud.respond_record]

/-- An `exchange` goes on record, whether or not it meets a fault. -/
theorem calls_exchange (d : Disturbed) (e : Exchange) :
    (d.exchange e).2.world.cloud.calls = d.world.cloud.calls ++ [e.operation] := by
  have hcalls : (d.cloudFor e).calls = d.world.cloud.calls := by
    rw [cloudFor]
    split <;> rfl
  exact (Cloud.calls_exchange e (d.cloudFor e)).trans (by rw [hcalls])

end Disturbed

/-- The picture after an exchange. -/
def Picture.after (p : Picture) (e : Exchange) : Picture :=
  { p with cloud := (p.cloud.respond e).2 }

theorem Cloud.vnics_respond (e : Exchange) (c : Cloud) : (c.respond e).2.vnics = c.vnics := by
  have h := congrArg Cloud.vnics (fixed_respond e c)
  exact h

theorem World.picture_answered (w : World) (e : Exchange) (failures : Dictionary (List Fault))
    (calls : List String) :
    ({ w with cloud := { (w.cloud.respond e).2 with failures, calls } } : World).picture =
      w.picture.after e := by
  have hcloud : ({ (w.cloud.respond e).2 with failures, calls } : Cloud).unrecorded =
      (w.cloud.unrecorded.respond e).2 :=
    congrArg Prod.snd (Cloud.respond_unrecorded e w.cloud).symm
  have hknown : ({ w with cloud := { (w.cloud.respond e).2 with failures, calls } } :
      World).vnicsKnown = w.vnicsKnown := by
    simp only [World.vnicsKnown, Cloud.vnics_respond]
  rw [World.picture, hcloud, hknown]
  rfl

end VolumeDriver.InMemory
