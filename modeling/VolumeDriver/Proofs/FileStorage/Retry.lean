import VolumeDriver.Proofs.FileStorage.Leads
import VolumeDriver.Proofs.InMemory.Attempts
set_option autoImplicit false

/-! # Exporting a file system again

An attach that failed half-way has left behind nothing, an export on its way, or one in place (`Served`).
From each of these pictures an attach leads to that export in place, so it `Converges`. -/

namespace VolumeDriver.InMemory

open ControlPlane Controller

variable {p : Picture} {limits : Limits} {options : Options} {node name : String} {session : Session}
  {t : ExportTarget} {e : Export} {status : Status}

/-- Whether an attach knows its file system, has a session and finds the target of the export. -/
structure Targeted (p : Picture) (limits : Limits) (options : Options) (name : String)
    (session : Session) (t : ExportTarget) : Prop where
  named : options.volumeName? = some name
  opens : p.session = .ok session
  resolves : ∀ q : Picture, q.scene = p.scene →
    ControllerLeads q (resolveTarget limits session.compartmentId name) (.ok t) q (· = q)

theorem Targeted.of_scene {q : Picture} (h : Targeted p limits options name session t)
    (hq : q.scene = p.scene) : Targeted q limits options name session t where
  named := h.named
  opens := (congrArg Picture.session hq).trans h.opens
  resolves := fun q' hq' => h.resolves q' (hq'.trans hq)

/-- An attach of a file system that is located is `Targeted`, in any picture of the scene. -/
theorem Targeted.of_locates (hname : options.volumeName? = some name)
    (hsession : p.session = .ok session) (h : p.cloud.Locates name t)
    (hsize : p.cloud.pageSize ≠ some 0) (hlong : p.cloud.mountTargets.length < UInt64.size)
    (hpages : p.cloud.mountTargets.length < limits.pages) :
    Targeted p limits options name session t where
  named := hname
  opens := hsession
  resolves := fun _ hq => resolves_of_locates _ h hsize hlong hpages hq

/-- Whether a target is served by an export that may have to be waited for, and that `looksForExport` fits
    into the retries. -/
structure Served (p : Picture) (limits : Limits) (t : ExportTarget) (e : Export) : Prop where
  serving : p.cloud.serving t = some e
  byId : p.cloud.exports.find? (Cloud.isExport e.id) = some e
  unscripted : p.cloud.exportStates.Drained
  listable : p.cloud.ListableExports limits
  retries : looksForExport e.state ≤ limits.poll.retries

/-- A target stays `Served` when its export comes into place. -/
theorem Served.settle (h : Served p limits t e) :
    Served (p.withExport e.id .active) limits t { e with state := .active } where
  serving := Cloud.serving_setExportState h.serving h.byId rfl
  byId := Cloud.find?_setExportState h.byId
  unscripted := h.unscripted
  listable := by
    obtain ⟨hsize, hlong, hpages⟩ := h.listable
    rw [← Cloud.length_setExportState e.id .active] at hlong hpages
    exact ⟨hsize, hlong, hpages⟩
  retries := by
    have hle : 1 ≤ looksForExport e.state := by cases e.state <;> simp [looksForExport]
    exact Nat.le_trans hle h.retries

theorem leads_fileStorageAttach {r : Except DriverFault Status} {p' : Picture} {E : Picture → Prop}
    (hp : Targeted p limits options name session t)
    (hrest : DriverLeads p (exportTo limits t) r p' E) (hE : E p) :
    DriverLeads p (FileStorage.attach limits options node) r p' E := by
  rw [attach_eq_aboutTarget]
  exact (leads_volumeOf_some hp.named).bind (leads_aboutTarget hp.opens (hp.resolves p rfl) hE hrest)

variable (node) in
theorem leads_attach_of_served {E : Picture → Prop} (hp : Targeted p limits options name session t)
    (h : Served p limits t e) (hE : E p) (hE' : E (p.withExport e.id .active)) :
    DriverLeads p (FileStorage.attach limits options node)
      (.ok { Status.success with device := some t.path }) (p.withExport e.id .active) E := by
  have hcreate := leads_createExport_served h.listable h.serving
  have hrest := leads_exportTo (hcreate.mono fun q hq => hq ▸ hE) h.unscripted h.byId
    (Cloud.live_of_serving h.serving) h.retries hE hE'
  exact leads_fileStorageAttach hp hrest hE

variable (node) in
/-- Where a target is `Served`, an attach leads to its export in place, and so it does from there. -/
theorem converges_served (hp : Targeted p limits options name session t) (h : Served p limits t e) :
    Converges (FileStorage.attach limits options node)
      (fun q => q = p ∨ q = p.withExport e.id .active)
      { Status.success with device := some t.path } (p.withExport e.id .active) := by
  have hsame : (p.withExport e.id .active).withExport e.id .active = p.withExport e.id .active := by
    rw [Picture.withExport, Cloud.setExportState_of_eq h.settle.byId rfl]
  have hlast := leads_attach_of_served node (E := (· = p.withExport e.id .active))
    (hp.of_scene (q := p.withExport e.id .active) rfl) h.settle rfl hsame
  rw [hsame] at hlast
  exact (Converges.stays hlast).before (leads_attach_of_served node hp h (.inl rfl) (.inr rfl))

/-- In `Cloud.withNewExport` a target is `Served` by the new export. -/
theorem served_withNewExport (hsound : p.cloud.SoundExports) (hs : p.cloud.serving t = none)
    (hsize : p.cloud.pageSize ≠ some 0) (hlong : p.cloud.exports.length + 1 < UInt64.size)
    (hpages : p.cloud.exports.length + 1 < limits.pages) (hretries : 2 ≤ limits.poll.retries) :
    Served { p with cloud := p.cloud.withNewExport t } limits t (p.cloud.newExport t) := by
  have hlength : (p.cloud.withNewExport t).exports.length = p.cloud.exports.length + 1 := by
    rw [Cloud.withNewExport, List.length_append, List.length_singleton]
  exact {
    serving := Cloud.serving_withNewExport hs
    byId := hsound.find?_newExport
    unscripted := hsound.unscripted
    listable := ⟨hsize, hlength ▸ hlong, hlength ▸ hpages⟩
    retries := hretries }

/-- Where the path of a target is free, an attach leads to `Cloud.newExport` in place. It is on its way
    there from the request on, and from then on no other export is made. -/
theorem converges_unserved (hp : Targeted p limits options name session t)
    (hlist : p.cloud.ListableExports limits) (hfree : ¬p.cloud.isTaken t)
    (hnew : Served { p with cloud := p.cloud.withNewExport t } limits t (p.cloud.newExport t)) :
    ∃ I final, I p ∧ Converges (FileStorage.attach limits options node) I
      { Status.success with device := some t.path } final := by
  let e := p.cloud.newExport t
  let p₁ : Picture := { p with cloud := p.cloud.withNewExport t }
  have hlater := converges_served node (hp.of_scene (q := p₁) rfl) hnew
  have hcreate := leads_createExport_free hlist hfree
  have hrest := leads_exportTo
    (hcreate.mono (F := fun q => q = p ∨ q = p₁ ∨ q = p₁.withExport e.id .active) fun _ => .inl)
    hnew.unscripted hnew.byId rfl hnew.retries (.inr (.inl rfl)) (.inr (.inr rfl))
  exact ⟨_, _, .inl rfl, hlater.before (leads_fileStorageAttach hp hrest (.inl rfl))⟩

/-! ## What an attach that succeeds has found -/

variable {d d' : Disturbed}

/-- A `FileStorage.attach` that succeeds has found the target of the export. -/
theorem targeted_of_success (hd : Shows p d)
    (hrun : Fallible.runs Disturbed.act (FileStorage.attach limits options node) d =
      (.ok status, d')) :
    ∃ name session t d₁, Targeted p limits options name session t ∧ Shows p d₁ ∧
      Fallible.runs Disturbed.act (exportTo limits t) d₁ = (.ok status, d') := by
  rw [attach_eq_aboutTarget] at hrun
  obtain ⟨name, d₁, hname, hd₁, h₁⟩ :=
    (leads_volumeOf options fun _ => True).proceeds hd hrun
  obtain ⟨session, d₂, hsession, hd₂, h₂⟩ :=
    (leads_onController (leads_connect (E := fun _ => True)) .connect).proceeds hd₁ h₁
  obtain ⟨r, hr⟩ := settled_resolveTarget limits (s := p.scene) session.compartmentId name
  obtain ⟨t, d₃, ht, hd₃, h₃⟩ := (leads_onController (hr p rfl) .export).proceeds hd₂ h₂
  refine ⟨name, session, t, d₃, ⟨volumeName_of_ok hname, ok_of_mapError hsession, ?_⟩, hd₃, h₃⟩
  rw [← ok_of_mapError ht]
  exact hr

/-- An `exportTo` that succeeds has looked as often as `looksForExport` says. -/
theorem exportTo_success {p' : Picture} {E : Picture → Prop}
    (hcreate : ControllerLeads p (createExport limits t) (.ok e) p' E)
    (h : p'.cloud.exportStates.Drained)
    (he : p'.cloud.exports.find? (Cloud.isExport e.id) = some e) (hlive : e.state.isLive)
    (hd : Shows p d)
    (hrun : Fallible.runs Disturbed.act (exportTo limits t) d = (.ok status, d')) :
    looksForExport e.state ≤ limits.poll.retries := by
  refine Nat.le_of_not_lt fun hshort => ?_
  obtain ⟨_, d₁, hrequested, hd₁, h₁⟩ := (leads_onController hcreate _).proceeds hd hrun
  cases hrequested
  obtain ⟨fault, p'', hwait⟩ := leads_waitForActive_short h he hlive hshort
  obtain ⟨_, _, himpossible, _⟩ := (leads_onController hwait _).proceeds hd₁ h₁
  cases himpossible

/-- **A `FileStorage.attach` that can succeed converges.** -/
theorem converges_fileStorageAttach (hsound : p.cloud.SoundExports)
    (hsize : p.cloud.pageSize ≠ some 0) (hlong : p.cloud.exports.length + 1 < UInt64.size)
    (hpages : p.cloud.exports.length + 1 < limits.pages) (hd : Shows p d)
    (hrun : Fallible.runs Disturbed.act (FileStorage.attach limits options node) d =
      (.ok status, d')) :
    ∃ I status final, I p ∧ Converges (FileStorage.attach limits options node) I status final := by
  obtain ⟨name, session, t, d₁, hp, hd₁, h₁⟩ := targeted_of_success hd hrun
  have hlist : p.cloud.ListableExports limits :=
    ⟨hsize, Nat.lt_of_succ_lt hlong, Nat.lt_of_succ_lt hpages⟩
  cases hs : p.cloud.serving t with
  | none =>
    have hfree : ¬p.cloud.isTaken t := by
      intro htaken
      obtain ⟨fault, hcreate⟩ := leads_createExport_taken hlist hs htaken
      obtain ⟨_, _, himpossible, _⟩ := (leads_onController hcreate _).proceeds hd₁ h₁
      cases himpossible
    have hretries := exportTo_success (leads_createExport_free hlist hfree) hsound.unscripted
      hsound.find?_newExport rfl hd₁ h₁
    obtain ⟨I, final, hI, hconverges⟩ := converges_unserved hp hlist hfree
      (served_withNewExport hsound hs hsize hlong hpages hretries)
    exact ⟨I, _, final, hI, hconverges⟩
  | some e =>
    have hid := hsound.find?_id (Cloud.mem_of_serving hs)
    have hretries := exportTo_success (leads_createExport_served hlist hs) hsound.unscripted hid
      (Cloud.live_of_serving hs) hd₁ h₁
    exact ⟨_, _, _, .inl rfl,
      converges_served node hp ⟨hs, hid, hsound.unscripted, hlist, hretries⟩⟩

end VolumeDriver.InMemory
