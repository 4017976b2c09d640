import VolumeDriver.Proofs.InMemory.Exchange
set_option autoImplicit false

/-! # What becomes of attachments

An exchange leaves the attachments alone, adds one, or moves one on to another state (`Shift`). From
that follows what holds of all clouds that come out of a sound one: identifiers stay unique, a volume
never gets a second live attachment, and no attachment is lost or comes back to life (`Grows`).

What an answer says about attachments is `Tells`; it stays true whatever else is exchanged. -/

namespace VolumeDriver.InMemory

open ControlPlane

/-! ## Lists of attachments -/

/-- Whether an attachment is of a volume and is in place or about to be. -/
def isLiveOf (volumeId : String) (a : VolumeAttachment) : Bool :=
  a.volumeId = volumeId && a.state.isLive

/-- No volume has two attachments that are live (`isLiveOf`). -/
def AtMostOneLive (l : List VolumeAttachment) : Prop :=
  ∀ volumeId, l.countP (isLiveOf volumeId) ≤ 1

/-- One attachment as it was and as it is later: only its state is another, and if it is live, it has been
    live all along. -/
def Continues (a a' : VolumeAttachment) : Prop :=
  a' = { a with state := a'.state } ∧ (a'.state.isLive → a.state.isLive)

/-- No attachment of the first list is lost, and none comes back to life: each `Continues`. -/
def Grows (l l' : List VolumeAttachment) : Prop :=
  ∀ a ∈ l, ∃ a' ∈ l', Continues a a'

theorem Continues.refl (a : VolumeAttachment) : Continues a a :=
  ⟨rfl, id⟩

/-- Of things with identifiers of their own (`List.Nodup`), those of one identifier are one. -/
theorem eq_of_id {α : Type} {f : α → String} {l : List α} (h : (l.map f).Nodup) {a b : α}
    (ha : a ∈ l) (hb : b ∈ l) (hid : f a = f b) : a = b := by
  induction l with
  | nil => cases ha
  | cons c rest ih =>
    rw [List.map_cons, List.nodup_cons] at h
    obtain ⟨hc, hrest⟩ := h
    rcases List.mem_cons.1 ha with rfl | ha' <;> rcases List.mem_cons.1 hb with rfl | hb'
    · rfl
    · exact absurd (hid ▸ List.mem_map_of_mem hb') hc
    · exact absurd (hid ▸ List.mem_map_of_mem ha') hc
    · exact ih hrest ha' hb'

/-- A thing is found by its identifier with `List.find?`. -/
theorem find?_of_id {α : Type} {f : α → String} {l : List α} (h : (l.map f).Nodup) {a : α}
    (ha : a ∈ l) : l.find? (fun b => f b = f a) = some a := by
  cases hfind : l.find? (fun b => f b = f a) with
  | none =>
    have hne := List.find?_eq_none.1 hfind a ha
    exact absurd (decide_eq_true rfl) hne
  | some b =>
    have hp := List.find?_some hfind
    have hid : f b = f a := of_decide_eq_true hp
    rw [eq_of_id h (List.mem_of_find?_eq_some hfind) ha hid]

namespace Cloud

theorem id_of_find? {l : List VolumeAttachment} {id : String} {a : VolumeAttachment}
    (h : l.find? (isAttachment id) = some a) : a.id = id := by
  have hp : isAttachment id a = true := List.find?_some h
  exact of_decide_eq_true hp

/-! ## What one exchange does -/

/-- How the attachments may be after one exchange. -/
inductive Shift (c c' : Cloud) : Prop
  | unchanged (attachments : c'.attachments = c.attachments) (lastId : c.lastId ≤ c'.lastId)
  | created (a : VolumeAttachment) (id : a.id = madeUpId "volumeattachment" (c.lastId + 1))
      (free : ∀ b ∈ c.attachments, isLiveOf a.volumeId b = false)
      (attachments : c'.attachments = c.attachments ++ [a]) (lastId : c'.lastId = c.lastId + 1)
  | moved (before after : List VolumeAttachment) (a : VolumeAttachment) (state : AttachmentState)
      (found : c.attachments = before ++ a :: after)
      (attachments : c'.attachments = before ++ { a with state } :: after)
      (live : state.isLive → a.state.isLive) (lastId : c'.lastId = c.lastId)

/-- Looking at an attachment, which moves it on to its `nextAttachmentState`, does not bring it back to
    life. -/
theorem isLive_nextAttachmentState {state : AttachmentState}
    (h : (nextAttachmentState state).isLive) : state.isLive := by
  cases state <;> exact h

theorem shift_setAttachmentState {c c' : Cloud} {id : String} {a : VolumeAttachment}
    (ha : c.attachments.find? (isAttachment id) = some a) {state : AttachmentState}
    (live : state.isLive → a.state.isLive)
    (h : c'.attachments = (c.setAttachmentState id state).attachments)
    (hid : c'.lastId = c.lastId) : Shift c c' := by
  obtain ⟨before, after, hl, hu⟩ := updateFirst_of_find? ({ · with state }) ha
  exact .moved before after a state hl (h.trans hu) live hid

theorem shift_attachVolume (c : Cloud) (operation instanceId volumeId : String) :
    Shift c (c.attachVolume operation instanceId volumeId).2 := by
  rw [attachVolume]
  split
  · exact .unchanged rfl (Nat.le_refl _)
  · split
    · exact .unchanged rfl (Nat.le_refl _)
    · rename_i hfree
      refine .created _ rfl ?_ rfl rfl
      intro b hb
      rw [Bool.not_eq_true, List.any_eq_false] at hfree
      exact Bool.not_eq_true _ ▸ hfree b hb

theorem shift_getVolumeAttachment {c : Cloud} (h : c.attachmentStates.Drained)
    (operation id : String) : Shift c (c.getVolumeAttachment operation id).2 := by
  simp only [getVolumeAttachment, h.pop]
  cases ha : c.attachments.find? (isAttachment id) with
  | none => exact .unchanged rfl (Nat.le_refl _)
  | some a => exact shift_setAttachmentState ha isLive_nextAttachmentState rfl rfl

theorem shift_detachVolume (c : Cloud) (operation id : String) :
    Shift c (c.detachVolume operation id).2 := by
  rw [detachVolume]
  cases ha : c.attachments.find? (isAttachment id) with
  | none => exact .unchanged rfl (Nat.le_refl _)
  | some a =>
    dsimp only
    split
    · exact shift_setAttachmentState ha (fun h => by cases h) rfl rfl
    · exact .unchanged rfl (Nat.le_refl _)

theorem Shift.of_eq {c d c' : Cloud} (h : Shift d c') (ha : d.attachments = c.attachments)
    (hl : d.lastId = c.lastId) : Shift c c' := by
  cases h with
  | unchanged h₁ h₂ => exact .unchanged (h₁.trans ha) (hl ▸ h₂)
  | created a id free h₁ h₂ => exact .created a (hl ▸ id) (ha ▸ free) (ha ▸ h₁) (hl ▸ h₂)
  | moved before after a state found h₁ live h₂ =>
    exact .moved before after a state (ha ▸ found) h₁ live (hl ▸ h₂)

theorem shift_respond {c : Cloud} (h : c.attachmentStates.Drained) (e : Exchange) :
    Shift c (c.respond e).2 := by
  cases e with
  | attachVolume instanceId volumeId => exact shift_attachVolume c _ instanceId volumeId
  | getVolumeAttachment id => exact shift_getVolumeAttachment h _ id
  | detachVolume id => exact shift_detachVolume c _ id
  | createExport exportSetId fileSystemId path =>
    simp only [respond, createExport]
    split
    · exact .unchanged rfl (Nat.le_refl _)
    · exact .unchanged rfl (Nat.le_succ _)
  | getExport id =>
    simp only [respond, getExport]
    split <;> exact .unchanged rfl (Nat.le_refl _)
  | deleteExport id =>
    simp only [respond, deleteExport]
    split <;> exact .unchanged rfl (Nat.le_refl _)
  | _ => exact .unchanged rfl (Nat.le_refl _)

/-- Every exchange does one of the three things of `Shift` to the attachments. -/
theorem shift_exchange {c : Cloud} (h : c.attachmentStates.Drained) (e : Exchange) :
    Shift c (c.exchange e).2 := by
  rcases exchange_cases e c with ⟨fault, he⟩ | he
  · rw [he]
    exact .unchanged rfl (Nat.le_refl _)
  · rw [he]
    exact (shift_respond (c := c.noted e) h e).of_eq rfl rfl

theorem attachmentStates_respond {c : Cloud} (h : c.attachmentStates.Drained) (e : Exchange) :
    (c.respond e).2.attachmentStates = c.attachmentStates := by
  cases e with
  | attachVolume instanceId volumeId =>
    simp only [respond, attachVolume]
    split
    · rfl
    · split <;> rfl
  | getVolumeAttachment id =>
    simp only [respond, getVolumeAttachment, h.pop]
    split <;> rfl
  | detachVolume id =>
    simp only [respond, detachVolume]
    split
    · rfl
    · split <;> rfl
  | createExport exportSetId fileSystemId path =>
    simp only [respond, createExport]
    split <;> rfl
  | getExport id =>
    simp only [respond, getExport]
    split <;> rfl
  | deleteExport id =>
    simp only [respond, deleteExport]
    split <;> rfl
  | _ => rfl

theorem attachmentStates_exchange {c : Cloud} (h : c.attachmentStates.Drained) (e : Exchange) :
    (c.exchange e).2.attachmentStates = c.attachmentStates := by
  rcases exchange_cases e c with ⟨fault, he⟩ | he
  · rw [he]
    rfl
  · rw [he]
    exact attachmentStates_respond (c := c.noted e) h e

/-! ## Sound clouds -/

/-- Attachments have identifiers of their own, which will not be made up again, and nothing is laid down
    about their states. -/
structure Sound (c : Cloud) : Prop where
  ids : (c.attachments.map VolumeAttachment.id).Nodup
  fresh : ∀ a ∈ c.attachments, ∀ n, c.lastId < n → a.id ≠ madeUpId "volumeattachment" n
  unscripted : c.attachmentStates.Drained

theorem Shift.ids {c c' : Cloud} (h : Shift c c') (hc : c.Sound) :
    (c'.attachments.map VolumeAttachment.id).Nodup := by
  cases h with
  | unchanged attachments _ => exact attachments ▸ hc.ids
  | created a id free attachments _ =>
    rw [attachments, List.map_append, List.nodup_append]
    refine ⟨hc.ids, List.pairwise_singleton _ _, ?_⟩
    intro x hx y hy hxy
    obtain ⟨b, hb, rfl⟩ := List.mem_map.1 hx
    obtain rfl := List.mem_singleton.1 hy
    exact hc.fresh b hb _ (Nat.lt_succ_self _) (hxy.trans id)
  | moved before after a state found attachments live _ =>
    have h := hc.ids
    rw [found] at h
    rw [attachments]
    simpa only [List.map_append, List.map_cons] using h

theorem Shift.fresh {c c' : Cloud} (h : Shift c c') (hc : c.Sound) :
    ∀ a ∈ c'.attachments, ∀ n, c'.lastId < n → a.id ≠ madeUpId "volumeattachment" n := by
  intro b hb n hn
  cases h with
  | unchanged attachments lastId =>
    exact hc.fresh b (attachments ▸ hb) n (Nat.lt_of_le_of_lt lastId hn)
  | created a id free attachments lastId =>
    rw [attachments, List.mem_append, List.mem_singleton] at hb
    rw [lastId] at hn
    rcases hb with hb | rfl
    · exact hc.fresh b hb n (Nat.lt_of_succ_lt hn)
    · rw [id]
      exact fun h => Nat.ne_of_lt hn (madeUpId_injective _ h)
  | moved before after a state found attachments live lastId =>
    rw [lastId] at hn
    rw [attachments, List.mem_append, List.mem_cons] at hb
    rcases hb with hb | rfl | hb
    · exact hc.fresh b (by simp [found, hb]) n hn
    · exact hc.fresh a (by simp [found]) n hn
    · exact hc.fresh b (by simp [found, hb]) n hn

theorem Shift.grows {c c' : Cloud} (h : Shift c c') : Grows c.attachments c'.attachments := by
  intro b hb
  cases h with
  | unchanged attachments _ => exact ⟨b, attachments ▸ hb, .refl b⟩
  | created a id free attachments _ => exact ⟨b, by simp [attachments, hb], .refl b⟩
  | moved before after a state found attachments live _ =>
    rw [found, List.mem_append, List.mem_cons] at hb
    rcases hb with hb | rfl | hb
    · exact ⟨b, by simp [attachments, hb], .refl b⟩
    · exact ⟨{ b with state }, by simp [attachments], rfl, live⟩
    · exact ⟨b, by simp [attachments, hb], .refl b⟩

theorem Shift.atMostOneLive {c c' : Cloud} (h : Shift c c') (hc : AtMostOneLive c.attachments) :
    AtMostOneLive c'.attachments := by
  intro volumeId
  have hle := hc volumeId
  cases h with
  | unchanged attachments _ => exact attachments ▸ hle
  | created a id free attachments _ =>
    rw [attachments, List.countP_append]
    by_cases hv : a.volumeId = volumeId
    · -- The new attachment may be live, but no other one of its volume is.
      have hnone : c.attachments.countP (isLiveOf volumeId) = 0 := by
        rw [List.countP_eq_zero, ← hv]
        exact fun b hb => by simp [free b hb]
      rw [hnone, Nat.zero_add]
      exact List.countP_le_length
    · have hnew : [a].countP (isLiveOf volumeId) = 0 := by simp [isLiveOf, hv]
      rw [hnew]
      exact hle
  | moved before after a state found attachments live _ =>
    refine Nat.le_trans ?_ hle
    rw [attachments, found]
    simp only [List.countP_append, List.countP_cons]
    have hstate : isLiveOf volumeId { a with state } → isLiveOf volumeId a := by
      simp only [isLiveOf, Bool.and_eq_true]
      exact fun h => ⟨h.1, live h.2⟩
    split
    · rename_i hl
      exact Nat.le_of_eq (by rw [if_pos (hstate hl)])
    · omega

/-- What a `Shift` does to the attachments of a sound cloud leaves it sound. -/
theorem Sound.shift {c c' : Cloud} (hc : c.Sound) (h : Shift c c')
    (hstates : c'.attachmentStates = c.attachmentStates) : c'.Sound where
  ids := h.ids hc
  fresh := h.fresh hc
  unscripted := hstates.symm ▸ hc.unscripted

/-- A control plane with one attachment, under an identifier that was made up before, is `Sound`. -/
theorem Sound.of_one {c : Cloud} {a : VolumeAttachment} {n : Nat} (hone : c.attachments = [a])
    (hid : a.id = madeUpId "volumeattachment" n) (hn : n ≤ c.lastId)
    (hstates : c.attachmentStates.Drained) : c.Sound where
  ids := by
    rw [hone]
    exact List.nodup_cons.2 ⟨nofun, List.nodup_nil⟩
  fresh := by
    intro b hb m hm heq
    rw [hone] at hb
    obtain rfl := List.mem_singleton.1 hb
    have hnumbers := madeUpId_injective _ (hid.symm.trans heq)
    omega
  unscripted := hstates

end Cloud

/-! ## What an answer tells -/

/-- An attachment, in whatever state, is among others. -/
def Holds (l : List VolumeAttachment) (a : VolumeAttachment) : Prop :=
  ∃ b ∈ l, ∃ state, a = { b with state }

/-- What an answer says about the attachments. -/
def Tells (l : List VolumeAttachment) : (e : Exchange) → Except Fault e.Answer → Prop
  | .attachVolume instanceId volumeId, .ok (a : VolumeAttachment) =>
    a.instanceId = instanceId ∧ a.volumeId = volumeId ∧ Holds l a
  | .listVolumeAttachments _ volumeId _, .ok (page : Page VolumeAttachment) =>
    ∀ a ∈ page.items, a.volumeId = volumeId ∧ Holds l a
  | .getVolumeAttachment id, .ok (a : VolumeAttachment) => a.id = id ∧ Holds l a
  | .detachVolume id, .ok _ => ∃ a ∈ l, a.id = id ∧ a.state.isLive = false
  | _, _ => True

theorem Holds.grows {l l' : List VolumeAttachment} {a : VolumeAttachment} (h : Holds l a)
    (hg : Grows l l') : Holds l' a := by
  obtain ⟨b, hb, state, rfl⟩ := h
  obtain ⟨b', hb', hc⟩ := hg b hb
  exact ⟨b', hb', state, by rw [hc.1]⟩

/-- Two attachments of one identifier, both of which a list `Holds`, differ in their states only. -/
theorem Holds.eq_of_id {l : List VolumeAttachment} (hl : (l.map VolumeAttachment.id).Nodup)
    {a b : VolumeAttachment} (ha : Holds l a) (hb : Holds l b) (hid : a.id = b.id) :
    ∃ state, a = { b with state } := by
  obtain ⟨a', ha', state, rfl⟩ := ha
  obtain ⟨b', hb', _, rfl⟩ := hb
  obtain rfl := InMemory.eq_of_id hl ha' hb' hid
  exact ⟨state, rfl⟩

theorem holds_of_mem {l : List VolumeAttachment} {a : VolumeAttachment} (h : a ∈ l) : Holds l a :=
  ⟨a, h, a.state, rfl⟩

/-- A refusal `Tells` nothing. -/
theorem tells_error (l : List VolumeAttachment) (e : Exchange) (fault : Fault) :
    Tells l e (.error fault) := by
  cases e <;> exact trivial

/-- What an answer `Tells` stays true. -/
theorem Tells.grows {l l' : List VolumeAttachment} {e : Exchange} {answer : Except Fault e.Answer}
    (h : Tells l e answer) (hg : Grows l l') : Tells l' e answer := by
  cases answer with
  | error fault => exact tells_error l' e fault
  | ok reply =>
    cases e with
    | attachVolume instanceId volumeId =>
      obtain ⟨hi, hv, hh⟩ := h
      exact ⟨hi, hv, hh.grows hg⟩
    | listVolumeAttachments compartmentId volumeId page =>
      exact fun a ha => ⟨(h a ha).1, (h a ha).2.grows hg⟩
    | getVolumeAttachment id => exact ⟨h.1, h.2.grows hg⟩
    | detachVolume id =>
      obtain ⟨a, ha, hid, hlive⟩ := h
      obtain ⟨a', ha', hc⟩ := hg a ha
      refine ⟨a', ha', ?_, ?_⟩
      · rw [hc.1]
        exact hid
      · exact Bool.eq_false_iff.2 fun hl => Bool.eq_false_iff.1 hlive (hc.2 hl)
    | _ => exact trivial

namespace Cloud

theorem mem_paginate {α : Type} {c : Cloud} {items : List α} {page : Option String} {a : α}
    (h : a ∈ (c.paginate items page).items) : a ∈ items := by
  rw [paginate] at h
  split at h
  · exact List.mem_of_mem_drop h
  · exact List.mem_of_mem_drop (List.mem_of_mem_take h)

theorem tells_attachVolume (c : Cloud) (instanceId volumeId : String) :
    Tells (c.respond (.attachVolume instanceId volumeId)).2.attachments
      (.attachVolume instanceId volumeId) (c.respond (.attachVolume instanceId volumeId)).1 := by
  simp only [respond, attachVolume]
  split
  · exact trivial
  · split
    · exact trivial
    · exact ⟨rfl, rfl, holds_of_mem (by simp)⟩

theorem tells_getVolumeAttachment {c : Cloud} (h : c.attachmentStates.Drained) (id : String) :
    Tells (c.respond (.getVolumeAttachment id)).2.attachments (.getVolumeAttachment id)
      (c.respond (.getVolumeAttachment id)).1 := by
  have hg := (shift_respond h (.getVolumeAttachment id)).grows
  simp only [respond, getVolumeAttachment, h.pop] at hg ⊢
  split
  · exact trivial
  · cases ‹(none : Option AttachmentState) = some _›
  · rename_i a ha _
    simp only [ha] at hg
    have hid := id_of_find? ha
    exact ⟨hid, (holds_of_mem (List.mem_of_find?_eq_some ha)).grows hg⟩

theorem tells_detachVolume (c : Cloud) (id : String) :
    Tells (c.respond (.detachVolume id)).2.attachments (.detachVolume id)
      (c.respond (.detachVolume id)).1 := by
  simp only [respond, detachVolume]
  split
  · exact trivial
  · rename_i a ha
    split
    · obtain ⟨before, after, _, hu⟩ := updateFirst_of_find?
        ({ · with state := AttachmentState.detaching }) ha
      have hid := id_of_find? ha
      refine ⟨{ a with state := .detaching }, ?_, hid, rfl⟩
      rw [setAttachmentState, hu]
      simp
    · exact trivial

theorem tells_respond {c : Cloud} (h : c.attachmentStates.Drained) (e : Exchange) :
    Tells (c.respond e).2.attachments e (c.respond e).1 := by
  cases e with
  | attachVolume instanceId volumeId => exact tells_attachVolume c instanceId volumeId
  | getVolumeAttachment id => exact tells_getVolumeAttachment h id
  | detachVolume id => exact tells_detachVolume c id
  | listVolumeAttachments compartmentId volumeId page =>
    intro a ha
    have hmem := List.mem_filter.1 (mem_paginate ha)
    exact ⟨of_decide_eq_true hmem.2, holds_of_mem hmem.1⟩
  | _ => exact trivial

/-- **The answers of a cloud are true** when they are given, and so ever after (`Tells`). -/
theorem tells_exchange {c : Cloud} (h : c.attachmentStates.Drained) (e : Exchange) :
    Tells (c.exchange e).2.attachments e (c.exchange e).1 := by
  rcases exchange_cases e c with ⟨fault, he⟩ | he
  · rw [he]
    exact tells_error _ e fault
  · rw [he]
    exact tells_respond (c := c.noted e) h e

/-- Only a live attachment can be undone by `Exchange.detachVolume`. -/
theorem live_of_detachVolume {c : Cloud} {id : String}
    (h : (c.exchange (.detachVolume id)).1 = .ok ()) :
    ∃ a ∈ c.attachments, a.id = id ∧ a.state.isLive := by
  rcases exchange_cases (.detachVolume id) c with ⟨fault, he⟩ | he
  · rw [he] at h
    cases h
  · rw [he] at h
    simp only [respond, detachVolume] at h
    split at h
    · cases h
    · rename_i a ha
      split at h
      · exact ⟨a, List.mem_of_find?_eq_some ha, id_of_find? ha, ‹_›⟩
      · cases h

end Cloud

end VolumeDriver.InMemory
