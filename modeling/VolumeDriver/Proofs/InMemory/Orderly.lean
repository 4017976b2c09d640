import VolumeDriver.Proofs.InMemory.Exports
set_option autoImplicit false

/-! # Exports that do not get in each other's way

No exchange brings an export back to life, and none creates one at a path that is taken. So there is
never more than one live export at a path of a set. Where all live exports are besides at the targets of
their file systems (`Cloud.Orderly`), and these have paths of their own, there is never more than one of
a file system, and none of two file systems at one path. -/

namespace VolumeDriver.InMemory

open ControlPlane

/-- Whether an export is at a path of a set and in place or about to be. -/
def isLiveAt (exportSetId path : String) (e : Export) : Bool :=
  e.exportSetId = exportSetId && e.path = path && e.state.isLive

/-- Whether an export is of a file system and in place or about to be. -/
def isLiveOfFileSystem (fileSystemId : String) (e : Export) : Bool :=
  e.fileSystemId = fileSystemId && e.state.isLive

namespace Cloud

variable {c c' : Cloud} {e : Export}

/-! ## What an exchange does to exports -/

theorem isLive_nextExportState {state : ExportState} (h : (nextExportState state).isLive) :
    state.isLive := by
  cases state <;> first | rfl | exact h

/-- What an exchange may do to the exports: nothing, or move one on that is not brought to life by that, or
    create one at a path that was free. -/
inductive ExportShift (x : Exchange) (c : Cloud) : Cloud → Prop
  | unchanged {c' : Cloud} (exports : c'.exports = c.exports) (lastId : c.lastId ≤ c'.lastId) :
    ExportShift x c c'
  | moved {c' : Cloud} (e : Export) (state : ExportState)
    (found : c.exports.find? (isExport e.id) = some e) (live : state.isLive → e.state.isLive)
    (exports : c'.exports = (c.setExportState e.id state).exports) (lastId : c'.lastId = c.lastId) :
    ExportShift x c c'
  | created {c' : Cloud} (exportSetId fileSystemId path : String)
    (asked : x = .createExport exportSetId fileSystemId path)
    (free : ∀ e ∈ c.exports, isLiveAt exportSetId path e = false)
    (exports : c'.exports = c.exports ++
      [⟨madeUpId "export" (c.lastId + 1), exportSetId, fileSystemId, path, .creating⟩])
    (lastId : c'.lastId = c.lastId + 1) : ExportShift x c c'

theorem exportShift_createExport (c : Cloud) (exportSetId fileSystemId path : String) :
    ExportShift (.createExport exportSetId fileSystemId path) c
      (c.respond (.createExport exportSetId fileSystemId path)).2 := by
  simp only [respond, createExport]
  split
  · exact .unchanged rfl (Nat.le_refl _)
  · rename_i hfree
    refine .created exportSetId fileSystemId path rfl (fun e he => ?_) rfl rfl
    rw [Bool.not_eq_true, List.any_eq_false] at hfree
    exact Bool.not_eq_true _ ▸ hfree e he

theorem exportShift_getExport (h : c.exportStates.Drained) (id : String) :
    ExportShift (.getExport id) c (c.respond (.getExport id)).2 := by
  simp only [respond, getExport, h.pop]
  cases hfound : c.exports.find? (isExport id) with
  | none => exact .unchanged rfl (Nat.le_refl _)
  | some e =>
    have hid : isExport id e := List.find?_some hfound
    obtain rfl := of_decide_eq_true hid
    exact .moved e _ hfound isLive_nextExportState rfl rfl

theorem exportShift_deleteExport (c : Cloud) (id : String) :
    ExportShift (.deleteExport id) c (c.respond (.deleteExport id)).2 := by
  simp only [respond, deleteExport]
  split
  · rename_i hany
    cases hfound : c.exports.find? (isExport id) with
    | none =>
      obtain ⟨e, he, hid⟩ := List.any_eq_true.1 hany
      exact absurd hid (List.find?_eq_none.1 hfound e he)
    | some e =>
      have hid : isExport id e := List.find?_some hfound
      obtain rfl := of_decide_eq_true hid
      exact .moved e .deleting hfound (fun hlive => absurd hlive (by decide)) rfl rfl
  · exact .unchanged rfl (Nat.le_refl _)

/-- **What an exchange does to exports** where nothing is laid down about their states (`ExportShift`). -/
theorem exportShift_respond (h : c.exportStates.Drained) (x : Exchange) :
    ExportShift x c (c.respond x).2 := by
  cases x with
  | createExport exportSetId fileSystemId path =>
    exact exportShift_createExport c exportSetId fileSystemId path
  | getExport id => exact exportShift_getExport h id
  | deleteExport id => exact exportShift_deleteExport c id
  | attachVolume instanceId volumeId =>
    simp only [respond, attachVolume]
    split
    · exact .unchanged rfl (Nat.le_refl _)
    · split
      · exact .unchanged rfl (Nat.le_refl _)
      · exact .unchanged rfl (Nat.le_succ _)
  | getVolumeAttachment id =>
    simp only [respond, getVolumeAttachment]
    split <;> exact .unchanged rfl (Nat.le_refl _)
  | detachVolume id =>
    simp only [respond, detachVolume]
    split
    · exact .unchanged rfl (Nat.le_refl _)
    · split <;> exact .unchanged rfl (Nat.le_refl _)
  | _ => exact .unchanged rfl (Nat.le_refl _)

/-- Where nothing is laid down about the states of exports, nothing ever is. -/
theorem exportStates_respond (h : c.exportStates.Drained) (x : Exchange) :
    (c.respond x).2.exportStates = c.exportStates := by
  cases x with
  | attachVolume instanceId volumeId =>
    simp only [respond, attachVolume]
    split
    · rfl
    · split <;> rfl
  | getVolumeAttachment id =>
    simp only [respond, getVolumeAttachment]
    split <;> rfl
  | detachVolume id =>
    simp only [respond, detachVolume]
    split
    · rfl
    · split <;> rfl
  | createExport exportSetId fileSystemId path =>
    simp only [respond, createExport]
    split <;> rfl
  | getExport id =>
    simp only [respond, getExport, h.pop]
    split <;> rfl
  | deleteExport id =>
    simp only [respond, deleteExport]
    split <;> rfl
  | _ => rfl

/-! ## What is kept -/

theorem map_id_updateFirst (id : String) (state : ExportState) (l : List Export) :
    (updateFirst (isExport id) ({ · with state }) l).map Export.id = l.map Export.id := by
  induction l with
  | nil => rfl
  | cons e rest ih =>
    rw [updateFirst]
    split
    · rfl
    · rw [List.map_cons, List.map_cons, ih]

theorem countP_updateFirst_le {α : Type} {p q : α → Bool} {f : α → α} {l : List α}
    (h : ∀ a, l.find? q = some a → p (f a) → p a) :
    (updateFirst q f l).countP p ≤ l.countP p := by
  induction l with
  | nil => exact Nat.le_refl _
  | cons a rest ih =>
    rw [updateFirst]
    by_cases hq : q a
    · rw [if_pos hq, List.countP_cons, List.countP_cons]
      by_cases hf : p (f a)
      · simp [hf, h a (List.find?_cons_of_pos hq) hf]
      · simp [hf]
    · rw [if_neg hq, List.countP_cons, List.countP_cons]
      have hrest := ih fun b hb => h b ((List.find?_cons_of_neg hq).trans hb)
      omega

theorem mem_updateFirst {α : Type} {q : α → Bool} {f : α → α} {l : List α} {b : α}
    (h : b ∈ updateFirst q f l) : b ∈ l ∨ ∃ a, l.find? q = some a ∧ b = f a := by
  induction l with
  | nil => exact .inl h
  | cons a rest ih =>
    rw [updateFirst] at h
    by_cases hq : q a
    · rw [if_pos hq] at h
      rcases List.mem_cons.1 h with rfl | h
      · exact .inr ⟨a, List.find?_cons_of_pos hq, rfl⟩
      · exact .inl (List.mem_cons_of_mem _ h)
    · rw [if_neg hq] at h
      rcases List.mem_cons.1 h with rfl | h
      · exact .inl List.mem_cons_self
      · rcases ih h with h | ⟨a', ha', rfl⟩
        · exact .inl (List.mem_cons_of_mem _ h)
        · exact .inr ⟨a', (List.find?_cons_of_neg hq).trans ha', rfl⟩

/-- After an `ExportShift`, exports stay sound. -/
theorem SoundExports.shift {x : Exchange} (h : c.SoundExports) (hshift : ExportShift x c c')
    (hstates : c'.exportStates = c.exportStates) : c'.SoundExports := by
  have hunscripted : c'.exportStates.Drained := hstates ▸ h.unscripted
  cases hshift with
  | unchanged exports lastId =>
    refine ⟨exports ▸ h.ids, fun e he n hn => ?_, hunscripted⟩
    exact h.fresh e (exports ▸ he) n (Nat.lt_of_le_of_lt lastId hn)
  | moved e state found live exports lastId =>
    refine ⟨?_, fun b hb n hn => ?_, hunscripted⟩
    · rw [exports, setExportState, map_id_updateFirst]
      exact h.ids
    · rw [lastId] at hn
      rw [exports] at hb
      rcases mem_updateFirst hb with hb | ⟨a, ha, rfl⟩
      · exact h.fresh b hb n hn
      · exact h.fresh a (List.mem_of_find?_eq_some ha) n hn
  | created exportSetId fileSystemId path asked free exports lastId =>
    refine ⟨?_, fun b hb n hn => ?_, hunscripted⟩
    · rw [exports, List.map_append, List.nodup_append]
      refine ⟨h.ids, List.nodup_cons.2 ⟨List.not_mem_nil, .nil⟩, fun a ha b hb hab => ?_⟩
      obtain ⟨e, he, rfl⟩ := List.mem_map.1 ha
      exact h.fresh e he _ (Nat.lt_succ_self _) (hab.trans (List.mem_singleton.1 hb))
    · rw [exports] at hb
      rw [lastId] at hn
      rcases List.mem_append.1 hb with hb | hb
      · exact h.fresh b hb n (Nat.lt_of_succ_lt hn)
      · rw [List.mem_singleton.1 hb]
        exact fun heq => Nat.ne_of_lt hn (madeUpId_injective _ heq)

/-- Exports that are sound, of which at most one is live at a path of a set, and of which the live ones
    are at the targets of their file systems, which are among those that `used` says. -/
structure Orderly (targets : String → ExportTarget) (used : String → Prop) (c : Cloud) : Prop where
  sound : c.SoundExports
  one : ∀ exportSetId path, c.exports.countP (isLiveAt exportSetId path) ≤ 1
  placed : ∀ e ∈ c.exports, e.state.isLive → used e.fileSystemId ∧
    e.exportSetId = (targets e.fileSystemId).mountTarget.exportSetId ∧
    e.path = (targets e.fileSystemId).path

/-- The exchange does not ask for an export of a file system anywhere but at its target. -/
def AsksForPlaced (targets : String → ExportTarget) (used : String → Prop) : Exchange → Prop
  | .createExport exportSetId fileSystemId path => used fileSystemId ∧
    exportSetId = (targets fileSystemId).mountTarget.exportSetId ∧
    path = (targets fileSystemId).path
  | _ => True

variable {targets : String → ExportTarget} {used : String → Prop}

/-- **Exports stay `Cloud.Orderly`** through an `ExportShift`. -/
theorem Orderly.shift {x : Exchange} (h : c.Orderly targets used) (hx : AsksForPlaced targets used x)
    (hshift : ExportShift x c c') (hstates : c'.exportStates = c.exportStates) :
    c'.Orderly targets used := by
  have hsound := h.sound.shift hshift hstates
  cases hshift with
  | unchanged exports lastId => exact ⟨hsound, exports ▸ h.one, exports ▸ h.placed⟩
  | moved e state found live exports lastId =>
    refine ⟨hsound, fun exportSetId path => ?_, fun b hb hlive => ?_⟩
    · refine Nat.le_trans ?_ (h.one exportSetId path)
      rw [exports]
      refine countP_updateFirst_le fun a ha hlive => ?_
      obtain rfl := Option.some.inj (found.symm.trans ha)
      simp only [isLiveAt, Bool.and_eq_true] at hlive ⊢
      exact ⟨hlive.1, live hlive.2⟩
    · rw [exports] at hb
      rcases mem_updateFirst hb with hb | ⟨a, ha, rfl⟩
      · exact h.placed b hb hlive
      · obtain rfl := Option.some.inj (found.symm.trans ha)
        exact h.placed e (List.mem_of_find?_eq_some found) (live hlive)
  | created exportSetId fileSystemId path asked free exports lastId =>
    subst asked
    refine ⟨hsound, fun set other => ?_, fun b hb hlive => ?_⟩
    · rw [exports, List.countP_append, List.countP_singleton]
      by_cases hnew : isLiveAt set other
          ⟨madeUpId "export" (c.lastId + 1), exportSetId, fileSystemId, path, .creating⟩
      · -- The place was free, so the new export is the only one there.
        have hplace : exportSetId = set ∧ path = other := by
          simpa [isLiveAt, ExportState.isLive] using hnew
        obtain ⟨rfl, rfl⟩ := hplace
        have hnone : c.exports.countP (isLiveAt exportSetId path) = 0 :=
          List.countP_eq_zero.2 fun e he => by simp [free e he]
        simp [hnone, hnew]
      · simpa [hnew] using h.one set other
    · rw [exports] at hb
      rcases List.mem_append.1 hb with hb | hb
      · exact h.placed b hb hlive
      · rw [List.mem_singleton.1 hb]
        exact hx

/-- Records have no part in `Cloud.Orderly`. -/
theorem Orderly.of_eq (h : c.Orderly targets used) (exports : c'.exports = c.exports)
    (lastId : c'.lastId = c.lastId) (hstates : c'.exportStates = c.exportStates) :
    c'.Orderly targets used where
  sound := ⟨exports ▸ h.sound.ids, fun e he n hn => h.sound.fresh e (exports ▸ he) n (lastId ▸ hn),
    hstates ▸ h.sound.unscripted⟩
  one := exports ▸ h.one
  placed := exports ▸ h.placed

/-- An exchange keeps exports `Cloud.Orderly`, whether or not it fails. -/
theorem Orderly.exchange {x : Exchange} (h : c.Orderly targets used)
    (hx : AsksForPlaced targets used x) : (c.exchange x).2.Orderly targets used := by
  have hnoted : (c.noted x).Orderly targets used := h.of_eq rfl rfl rfl
  rcases exchange_cases x c with ⟨fault, hrefused⟩ | hanswered
  · rw [hrefused]
    exact hnoted
  · rw [hanswered]
    exact hnoted.shift hx (exportShift_respond hnoted.sound.unscripted x)
      (exportStates_respond hnoted.sound.unscripted x)

/-- The exports do not get in each other's way: at most one of a file system is live, and no two of
    different file systems are live at one path. -/
structure Exclusive (c : Cloud) : Prop where
  one : ∀ fileSystemId, c.exports.countP (isLiveOfFileSystem fileSystemId) ≤ 1
  apart : ∀ a ∈ c.exports, ∀ b ∈ c.exports, a.state.isLive → b.state.isLive → a.path = b.path →
    a.fileSystemId = b.fileSystemId

/-- Where file systems have paths of their own, exports that are `Cloud.Orderly` are `Exclusive`. -/
theorem Orderly.exclusive (h : c.Orderly targets used)
    (hpaths : ∀ a b, used a → used b → (targets a).path = (targets b).path → a = b) :
    c.Exclusive where
  one := by
    intro fileSystemId
    refine Nat.le_trans (List.countP_mono_left fun e he hlive => ?_) (h.one
      (targets fileSystemId).mountTarget.exportSetId (targets fileSystemId).path)
    simp only [isLiveOfFileSystem, Bool.and_eq_true, decide_eq_true_eq] at hlive
    obtain ⟨rfl, hlive⟩ := hlive
    obtain ⟨_, hset, hpath⟩ := h.placed e he hlive
    simp [isLiveAt, ← hset, ← hpath, hlive]
  apart := by
    intro a ha b hb hlive hlive' hpath
    obtain ⟨hused, _, hplace⟩ := h.placed a ha hlive
    obtain ⟨hused', _, hplace'⟩ := h.placed b hb hlive'
    exact hpaths _ _ hused hused' (hplace.symm.trans (hpath.trans hplace'))

/-- Nothing is in the way of exports where none is live. -/
theorem orderly_of_dead (h : c.SoundExports) (hdead : ∀ e ∈ c.exports, e.state.isLive = false) :
    c.Orderly targets used where
  sound := h
  one := by
    intro exportSetId path
    have hnone : c.exports.countP (isLiveAt exportSetId path) = 0 :=
      List.countP_eq_zero.2 fun e he => by simp [isLiveAt, hdead e he]
    rw [hnone]
    exact Nat.zero_le 1
  placed := by
    intro e he hlive
    rw [hdead e he] at hlive
    cases hlive

end Cloud

end VolumeDriver.InMemory
