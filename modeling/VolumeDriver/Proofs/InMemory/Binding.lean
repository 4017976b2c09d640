import VolumeDriver.Proofs.InMemory.Attachments
set_option autoImplicit false

/-! # The attachment that binds a volume

A volume is bound by the first live attachment of it (`Cloud.binding`). Here is what each exchange
about attachments answers to a volume that is bound or free, and what becomes of the bindings: to ask
for an attachment binds a free volume, to look at one only lets it move on, and to undo it frees the
volume. -/

namespace VolumeDriver.InMemory

open ControlPlane

/-! ## Lists in which one item is changed -/

section UpdateFirst

variable {α : Type} {p q : α → Bool} {f : α → α} {l : List α} {a : α}

namespace Cloud

/-- The item that `updateFirst` changes is found as it is then, by a property that it keeps. -/
theorem find?_updateFirst_self (hp : l.find? p = some a) (hq : l.find? q = some a)
    (hf : p (f a)) : (updateFirst q f l).find? p = some (f a) := by
  induction l with
  | nil => cases hp
  | cons b rest ih =>
    rw [updateFirst]
    by_cases hb : q b
    · rw [List.find?_cons_of_pos hb] at hq
      cases hq
      rw [if_pos hb, List.find?_cons_of_pos hf]
    · rw [List.find?_cons_of_neg hb] at hq
      have hpb : ¬p b := by
        intro hpb
        rw [List.find?_cons_of_pos hpb] at hp
        cases hp
        exact hb (List.find?_some hq)
      rw [List.find?_cons_of_neg hpb] at hp
      rw [if_neg hb, List.find?_cons_of_neg hpb]
      exact ih hp hq

/-- The change of one item by `updateFirst` is no matter to properties that it has neither before nor
    after. -/
theorem find?_updateFirst_other (hq : l.find? q = some a) (ha : ¬p a) (hf : ¬p (f a)) :
    (updateFirst q f l).find? p = l.find? p := by
  induction l with
  | nil => rfl
  | cons b rest ih =>
    rw [updateFirst]
    by_cases hb : q b
    · rw [List.find?_cons_of_pos hb] at hq
      cases hq
      rw [if_pos hb, List.find?_cons_of_neg ha, List.find?_cons_of_neg hf]
    · rw [List.find?_cons_of_neg hb] at hq
      rw [if_neg hb, List.find?_cons, List.find?_cons, ih hq]

/-- An `updateFirst` that leaves an item as it is changes nothing. -/
theorem updateFirst_of_eq (hq : l.find? q = some a) (hf : f a = a) : updateFirst q f l = l := by
  induction l with
  | nil => rfl
  | cons b rest ih =>
    rw [updateFirst]
    by_cases hb : q b
    · rw [List.find?_cons_of_pos hb] at hq
      cases hq
      rw [if_pos hb, hf]
    · rw [List.find?_cons_of_neg hb] at hq
      rw [if_neg hb, ih hq]

/-- Two changes of an item by `updateFirst` are one. -/
theorem updateFirst_updateFirst {g : α → α} (hq : ∀ b, q (g b) = q b) :
    updateFirst q f (updateFirst q g l) = updateFirst q (f ∘ g) l := by
  induction l with
  | nil => rfl
  | cons b rest ih =>
    rw [updateFirst, updateFirst]
    by_cases hb : q b
    · rw [if_pos hb, if_pos hb, updateFirst, if_pos ((hq b).trans hb)]
      rfl
    · rw [if_neg hb, if_neg hb, updateFirst, if_neg hb, ih]

/-- Where no other item has the property, it is the last one that `updateFirst` changes. -/
theorem updateFirst_concat (hl : l.find? q = none) (ha : q a) :
    updateFirst q f (l ++ [a]) = l ++ [f a] := by
  induction l with
  | nil => exact if_pos ha
  | cons b rest ih =>
    have hb : ¬q b := List.find?_eq_none.1 hl b List.mem_cons_self
    rw [List.find?_cons_of_neg hb] at hl
    rw [List.cons_append, updateFirst, if_neg hb, ih hl, List.cons_append]

theorem length_updateFirst : (updateFirst q f l).length = l.length := by
  induction l with
  | nil => rfl
  | cons b rest ih =>
    rw [updateFirst]
    split
    · rfl
    · rw [List.length_cons, List.length_cons, ih]

end Cloud

end UpdateFirst

namespace Cloud

/-- The attachment that binds a volume. -/
def binding (c : Cloud) (volumeId : String) : Option VolumeAttachment :=
  c.attachments.find? (isLiveOf volumeId)

/-- The attachment that is made when one is asked for. -/
def newAttachment (c : Cloud) (instanceId volumeId : String) : VolumeAttachment :=
  { id := madeUpId "volumeattachment" (c.lastId + 1), volumeId, instanceId, state := .attaching,
    attachmentType := "iscsi", ipv4 := some targetAddress, port := some targetPort,
    iqn := some (targetName volumeId) }

/-- The cloud with a `newAttachment`. -/
def withNew (c : Cloud) (instanceId volumeId : String) : Cloud :=
  { c with
    lastId := c.lastId + 1
    attachments := c.attachments ++ [c.newAttachment instanceId volumeId] }

variable {c : Cloud} {volumeId instanceId : String} {a : VolumeAttachment}

theorem isLiveOf_of_binding (h : c.binding volumeId = some a) : isLiveOf volumeId a := by
  rw [binding] at h
  exact List.find?_some h

theorem binding_spec (h : c.binding volumeId = some a) :
    a ∈ c.attachments ∧ a.volumeId = volumeId ∧ a.state.isLive := by
  have hlive := isLiveOf_of_binding h
  simp only [isLiveOf, Bool.and_eq_true, decide_eq_true_eq] at hlive
  exact ⟨List.mem_of_find?_eq_some h, hlive⟩

/-- An attachment of a `Sound` cloud is found by its identifier. -/
theorem Sound.find?_id (hc : c.Sound) (ha : a ∈ c.attachments) :
    c.attachments.find? (isAttachment a.id) = some a :=
  find?_of_id hc.ids ha

/-! ## Asking for an attachment -/

theorem respond_attachVolume_unknown (h : volumeId ∉ c.volumes) :
    c.respond (.attachVolume instanceId volumeId) =
      (.error (notFound "AttachVolume" volumeId), c) := by
  simp only [respond, attachVolume, if_pos h]
  rfl

theorem respond_attachVolume_bound (hknown : volumeId ∈ c.volumes)
    (h : c.binding volumeId = some a) :
    c.respond (.attachVolume instanceId volumeId) =
      (.error (conflict "AttachVolume" ("volume " ++ volumeId ++ " is already attached")), c) := by
  have hany : (c.attachments.any fun a => a.volumeId = volumeId && a.state.isLive) = true :=
    List.any_eq_true.2 ⟨a, (binding_spec h).1, isLiveOf_of_binding h⟩
  simp only [respond, attachVolume, hknown, not_true_eq_false, if_false, if_pos hany]
  rfl

theorem respond_attachVolume_free (hknown : volumeId ∈ c.volumes)
    (h : c.binding volumeId = none) :
    c.respond (.attachVolume instanceId volumeId) =
      (.ok (c.newAttachment instanceId volumeId),
        c.withNew instanceId volumeId) := by
  have hany : ¬(c.attachments.any fun a => a.volumeId = volumeId && a.state.isLive) = true := by
    rw [List.any_eq_true]
    rintro ⟨b, hb, hlive⟩
    exact List.find?_eq_none.1 h b hb hlive
  simp only [respond, attachVolume, hknown, not_true_eq_false, if_false, if_neg hany]
  rfl

/-! ## Looking at an attachment -/

theorem respond_getVolumeAttachment (h : c.attachmentStates.Drained) {id : String}
    (ha : c.attachments.find? (isAttachment id) = some a) :
    c.respond (.getVolumeAttachment id) =
      (.ok a, c.setAttachmentState id (nextAttachmentState a.state)) := by
  simp only [respond, getVolumeAttachment, h.pop, ha]
  rfl

/-- An attachment that has come to rest is left as it is by `setAttachmentState`. -/
theorem setAttachmentState_of_eq {id : String} {state : AttachmentState}
    (ha : c.attachments.find? (isAttachment id) = some a) (hstate : a.state = state) :
    c.setAttachmentState id state = c := by
  have hf : { a with state } = a := by rw [← hstate]
  rw [setAttachmentState, updateFirst_of_eq ha hf]

theorem find?_setAttachmentState {id : String} {state : AttachmentState}
    (ha : c.attachments.find? (isAttachment id) = some a) :
    (c.setAttachmentState id state).attachments.find? (isAttachment id) =
      some { a with state } := by
  have hid : isAttachment id a := List.find?_some ha
  exact find?_updateFirst_self (f := ({ · with state })) ha ha hid

/-- Of two states that `setAttachmentState` gives, the later one counts. -/
theorem setAttachmentState_twice (c : Cloud) (id : String) (state state' : AttachmentState) :
    (c.setAttachmentState id state).setAttachmentState id state' = c.setAttachmentState id state' := by
  have h := updateFirst_updateFirst (q := isAttachment id) (f := ({ · with state := state' }))
    (g := ({ · with state })) (l := c.attachments) fun _ => rfl
  simp only [setAttachmentState, h]
  rfl

/-! ## Undoing an attachment -/

theorem respond_detachVolume {id : String}
    (ha : c.attachments.find? (isAttachment id) = some a) (hlive : a.state.isLive) :
    c.respond (.detachVolume id) = (.ok (), c.setAttachmentState id .detaching) := by
  simp only [respond, detachVolume, ha, hlive, if_true]
  rfl

/-! ## What becomes of bindings -/

theorem shift_withNew (h : c.binding volumeId = none) : Shift c (c.withNew instanceId volumeId) := by
  refine .created (c.newAttachment instanceId volumeId) rfl ?_ rfl rfl
  intro b hb
  exact Bool.eq_false_iff.2 (List.find?_eq_none.1 h b hb)

/-- A `newAttachment` binds its volume and no other. -/
theorem binding_withNew (h : c.binding volumeId = none) (other : String) :
    (c.withNew instanceId volumeId).binding other =
      if other = volumeId then some (c.newAttachment instanceId volumeId) else c.binding other := by
  have hnew : isLiveOf other (c.newAttachment instanceId volumeId) = decide (volumeId = other) :=
    Bool.and_true _
  rw [binding, withNew, List.find?_append, List.find?_singleton, hnew]
  by_cases ho : other = volumeId
  · subst ho
    rw [binding] at h
    rw [h]
    simp
  · simp [ho, Ne.symm ho, binding]

variable (instanceId) in
/-- A `newAttachment` is found by its identifier. -/
theorem Sound.find?_newAttachment (hc : c.Sound) (h : c.binding volumeId = none) :
    (c.withNew instanceId volumeId).attachments.find?
      (isAttachment (c.newAttachment instanceId volumeId).id) =
        some (c.newAttachment instanceId volumeId) :=
  (hc.shift (shift_withNew h) rfl).find?_id (List.mem_append_right _ (List.mem_singleton.2 rfl))

/-- An attachment that stays live goes on binding its volume after `setAttachmentState`. -/
theorem binding_setAttachmentState_live {state : AttachmentState} (hb : c.binding volumeId = some a)
    (ha : c.attachments.find? (isAttachment a.id) = some a) (hlive : state.isLive) (other : String) :
    (c.setAttachmentState a.id state).binding other =
      if other = volumeId then some { a with state } else c.binding other := by
  obtain ⟨_, hvolume, _⟩ := binding_spec hb
  by_cases ho : other = volumeId
  · subst ho
    rw [if_pos rfl]
    refine find?_updateFirst_self (f := ({ · with state })) hb ha ?_
    simp [isLiveOf, hvolume, hlive]
  · rw [if_neg ho]
    refine find?_updateFirst_other ha ?_ ?_ <;>
      simp [isLiveOf, hvolume, Ne.symm ho]

/-- An attachment that is not live any more after `setAttachmentState` leaves its volume free. -/
theorem binding_setAttachmentState_dead {state : AttachmentState}
    (hone : AtMostOneLive c.attachments) (hb : c.binding volumeId = some a)
    (ha : c.attachments.find? (isAttachment a.id) = some a) (hdead : ¬state.isLive) (other : String) :
    (c.setAttachmentState a.id state).binding other =
      if other = volumeId then none else c.binding other := by
  obtain ⟨_, hvolume, _⟩ := binding_spec hb
  by_cases ho : other = volumeId
  · subst ho
    rw [if_pos rfl]
    obtain ⟨before, after, hl, hu⟩ := updateFirst_of_find? ({ · with state }) ha
    -- It was the only live attachment of its volume, so the ones around it do not bind the volume.
    have hcount := hone other
    rw [hl, List.countP_append, List.countP_cons_of_pos (isLiveOf_of_binding hb)] at hcount
    have hbefore : before.countP (isLiveOf other) = 0 := by omega
    have hafter : after.countP (isLiveOf other) = 0 := by omega
    rw [List.countP_eq_zero] at hbefore hafter
    rw [binding, setAttachmentState, hu, List.find?_eq_none]
    intro b hmem
    rcases List.mem_append.1 hmem with hmem | hmem
    · exact hbefore b hmem
    · rcases List.mem_cons.1 hmem with rfl | hmem
      · simp [isLiveOf, hdead]
      · exact hafter b hmem
  · rw [if_neg ho]
    refine find?_updateFirst_other ha ?_ ?_ <;>
      simp [isLiveOf, hvolume, Ne.symm ho]

/-- A `newAttachment` is the last one, and the others do not notice what becomes of it. -/
theorem Sound.attachments_newAttachment (hc : c.Sound) (instanceId volumeId : String)
    (state : AttachmentState) :
    ((c.withNew instanceId volumeId).setAttachmentState (c.newAttachment instanceId volumeId).id
      state).attachments = c.attachments ++ [{ c.newAttachment instanceId volumeId with state }] := by
  have hnone : c.attachments.find? (isAttachment (c.newAttachment instanceId volumeId).id) = none := by
    rw [List.find?_eq_none]
    exact fun b hb hid => hc.fresh b hb _ (Nat.lt_succ_self _) (of_decide_eq_true hid)
  exact updateFirst_concat hnone (decide_eq_true rfl)

theorem length_setAttachmentState (id : String) (state : AttachmentState) :
    (c.setAttachmentState id state).attachments.length = c.attachments.length :=
  length_updateFirst

end Cloud

end VolumeDriver.InMemory
