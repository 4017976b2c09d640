import VolumeDriver.InMemory.World
import VolumeDriver.Proofs.InMemory.Exchange
set_option autoImplicit false

/-! # What call-outs can see of a world

A world also keeps records: of the exchanges so far and of those that are to fail. What answers depend
on is its `Picture`, which leaves the records out. `Picture.scene` is what no call-out changes of it:
all but the attachments and exports and the identifiers made up for them. Of the cache's file only what it
says of interfaces is in the picture, and that together with what the control plane would say: to
learn more of what the control plane says anyway changes nothing. -/

namespace VolumeDriver.InMemory

open ControlPlane

namespace Cloud

/-- The control plane without its records. -/
def unrecorded (c : Cloud) : Cloud :=
  { c with failures := .empty, calls := [] }

/-- The control plane without what call-outs change of it. -/
def fixed (c : Cloud) : Cloud :=
  { c.unrecorded with
    lastId := 0
    attachments := []
    attachmentStates := .empty
    exports := []
    exportStates := .empty }

/-- Records have no part in what `respond` answers, and answering leaves them alone. -/
theorem respond_record (e : Exchange) (c : Cloud) (failures : Dictionary (List Fault))
    (calls : List String) :
    ({ c with failures, calls } : Cloud).respond e =
      ((c.respond e).1, { (c.respond e).2 with failures, calls }) := by
  -- No answer reads the records, so each branch leaves the same on both sides.
  cases e with
  | attachVolume instanceId volumeId =>
    simp only [respond, attachVolume]
    split
    · rfl
    · split <;> rfl
  | getVolumeAttachment id =>
    simp only [respond, getVolumeAttachment]
    split <;> rfl
  | detachVolume id =>
    simp only [respond, detachVolume]
    split
    · rfl
    · split <;> rfl
  | createExport exportSetId fileSystemId path =>
    simp only [respond, createExport]
    split <;> rfl
  | getExport id =>
    simp only [respond, getExport]
    split <;> rfl
  | deleteExport id =>
    simp only [respond, deleteExport]
    split <;> rfl
  | _ => rfl

theorem respond_unrecorded (e : Exchange) (c : Cloud) :
    c.unrecorded.respond e = ((c.respond e).1, (c.respond e).2.unrecorded) :=
  respond_record e c .empty []

theorem calls_respond (e : Exchange) (c : Cloud) : (c.respond e).2.calls = c.calls := by
  have h := respond_record e c c.failures c.calls
  rw [show ({ c with failures := c.failures, calls := c.calls } : Cloud) = c from rfl] at h
  rw [h]

/-- An `exchange` goes on record. -/
theorem calls_exchange (e : Exchange) (c : Cloud) :
    (c.exchange e).2.calls = c.calls ++ [e.operation] := by
  rcases exchange_cases e c with ⟨fault, he⟩ | he
  · rw [he]
    rfl
  · rw [he, calls_respond]
    rfl

/-- What is `fixed` an answer does not change. -/
theorem fixed_respond (e : Exchange) (c : Cloud) : (c.respond e).2.fixed = c.fixed := by
  cases e with
  | attachVolume instanceId volumeId =>
    simp only [respond, attachVolume]
    split
    · rfl
    · split <;> rfl
  | getVolumeAttachment id =>
    simp only [respond, getVolumeAttachment]
    split <;> rfl
  | detachVolume id =>
    simp only [respond, detachVolume]
    split
    · rfl
    · split <;> rfl
  | createExport exportSetId fileSystemId path =>
    simp only [respond, createExport]
    split <;> rfl
  | getExport id =>
    simp only [respond, getExport]
    split <;> rfl
  | deleteExport id =>
    simp only [respond, deleteExport]
    split <;> rfl
  | _ => rfl

end Cloud

/-! ## Pictures -/

/-- What is known of an interface: what the cache says, or else what the control plane says. -/
def vnicView (vnics : Dictionary Vnic) (cache : VnicCache) (id : String) : Option Vnic :=
  (cache.get? id).or (vnics.get? id)

/-- What is known of interfaces when the file of the cache is opened (`vnicView`). -/
def World.vnicsKnown (w : World) : Except String (String → Option Vnic) :=
  (openCacheIn w.files w.cachePath).1.map fun content => vnicView w.cloud.vnics (.ofContent content)

/-- All that answers depend on. -/
structure Picture where
  config : Option Config
  cachePath : String
  cloud : Cloud
  vnicsKnown : Except String (String → Option Vnic)

/-- The picture of a world. -/
def World.picture (w : World) : Picture :=
  ⟨w.config, w.cachePath, w.cloud.unrecorded, w.vnicsKnown⟩

/-- The picture without what call-outs change of it. -/
def Picture.scene (p : Picture) : Picture :=
  { p with cloud := p.cloud.fixed }

/-- Nothing is made to fail at the control plane. -/
def World.Calm (w : World) : Prop :=
  w.cloud.failures.Drained

instance (w : World) : Decidable w.Calm :=
  inferInstanceAs (Decidable w.cloud.failures.Drained)

/-- The session that a driver gets. -/
def Picture.session (p : Picture) : Except ConnectFault Session :=
  World.session { config := p.config, cachePath := p.cachePath }

end VolumeDriver.InMemory
