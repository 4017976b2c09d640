import VolumeDriver.Proofs.BlockVolume.CallOuts
import VolumeDriver.Proofs.InMemory.Attempts
set_option autoImplicit false

/-! # Attaching a block volume again

An attach that failed half-way has left behind nothing, an attachment on its way, or one in place (`Bound`).
From each of these pictures an attach leads to that attachment in place, so it `Converges`. -/

namespace VolumeDriver.InMemory

open ControlPlane Controller

variable {p : Picture} {limits : Limits} {options : Options} {node name : String} {session : Session}
  {machine : Instance} {a : VolumeAttachment} {status : Status}

/-- What a `BlockVolume.attach` does not have to wait for: it knows the volume's name, has a session and
    finds the instance, in any picture with the scene of `p`. -/
structure Prepared (p : Picture) (limits : Limits) (options : Options) (node name : String)
    (session : Session) (machine : Instance) : Prop where
  named : options.volumeName? = some name
  opens : p.session = .ok session
  resolves : ∀ q : Picture, q.scene = p.scene →
    ControllerLeads q (resolveNode limits session.scope node) (.ok machine) q (· = q)

theorem Prepared.of_scene {q : Picture} (h : Prepared p limits options node name session machine)
    (hq : q.scene = p.scene) : Prepared q limits options node name session machine where
  named := h.named
  opens := (congrArg Picture.session hq).trans h.opens
  resolves := fun q' hq' => h.resolves q' (hq'.trans hq)

/-- Whether a volume is bound for an instance by an attachment that may have to be waited for, and that
    `looksFor` fits into the retries. -/
structure Bound (p : Picture) (limits : Limits) (volumeId instanceId : String)
    (a : VolumeAttachment) : Prop where
  known : volumeId ∈ p.cloud.volumes
  binding : p.cloud.binding volumeId = some a
  byId : p.cloud.attachments.find? (Cloud.isAttachment a.id) = some a
  unscripted : p.cloud.attachmentStates.Drained
  owner : a.instanceId = instanceId
  listable : p.cloud.Listable limits
  retries : looksFor a.state ≤ limits.poll.retries

/-- A volume stays `Bound` when its attachment comes into place. -/
theorem Bound.settle {volumeId instanceId : String} (h : Bound p limits volumeId instanceId a) :
    Bound (p.withAttachment a.id .attached) limits volumeId instanceId
      { a with state := .attached } where
  known := h.known
  binding := by
    rw [Picture.withAttachment, Cloud.binding_setAttachmentState_live h.binding h.byId rfl,
      if_pos rfl]
  byId := Cloud.find?_setAttachmentState h.byId
  unscripted := h.unscripted
  owner := h.owner
  listable := by
    obtain ⟨hsize, hlong, hpages⟩ := h.listable
    rw [← Cloud.length_setAttachmentState a.id .attached] at hlong hpages
    exact ⟨hsize, hlong, hpages⟩
  retries := by
    have hle : 1 ≤ looksFor a.state := by cases a.state <;> simp [looksFor]
    exact Nat.le_trans hle h.retries

theorem leads_attach_of_bound {E : Picture → Prop}
    (hp : Prepared p limits options node name session machine)
    (h : Bound p limits (volumeId session.regionKey name) machine.id a) (hE : E p)
    (hE' : E (p.withAttachment a.id .attached)) :
    DriverLeads p (BlockVolume.attach limits options node) (attachedAnswer a)
      (p.withAttachment a.id .attached) E := by
  have hattach := leads_attach_bound session.compartmentId machine.id h.listable h.known h.binding
  rw [owned, if_pos h.owner] at hattach
  have hrest := leads_attachTo (hattach.mono fun q hq => hq ▸ hE) h.unscripted h.byId
    (Cloud.binding_spec h.binding).2.2 h.retries hE hE'
  exact leads_blockAttach hp.named hp.opens (hp.resolves p rfl) hrest hE

/-- Where a volume is `Bound`, an attach leads to its attachment in place, and so it does from there. -/
theorem converges_bound (hp : Prepared p limits options node name session machine)
    (h : Bound p limits (volumeId session.regionKey name) machine.id a)
    (hanswer : attachedAnswer a = .ok status) :
    Converges (BlockVolume.attach limits options node)
      (fun q => q = p ∨ q = p.withAttachment a.id .attached) status
      (p.withAttachment a.id .attached) := by
  have hsame : (p.withAttachment a.id .attached).withAttachment a.id .attached =
      p.withAttachment a.id .attached := by
    rw [Picture.withAttachment, Picture.withAttachment, Cloud.setAttachmentState_twice]
  have hlast := leads_attach_of_bound (E := (· = p.withAttachment a.id .attached))
    (hp.of_scene (q := p.withAttachment a.id .attached) rfl) h.settle rfl hsame
  rw [hsame] at hlast
  have hstays : Converges (BlockVolume.attach limits options node)
      (· = p.withAttachment a.id .attached) status (p.withAttachment a.id .attached) :=
    .stays (hanswer ▸ hlast)
  exact hstays.before (hanswer ▸ leads_attach_of_bound hp h (.inl rfl) (.inr rfl))

/-- A volume that is free is `Bound` in `Cloud.withNew`, by the new attachment. -/
theorem bound_withNew {volumeId instanceId : String} (hsound : p.cloud.Sound)
    (hb : p.cloud.binding volumeId = none) (hknown : volumeId ∈ p.cloud.volumes)
    (hsize : p.cloud.pageSize ≠ some 0) (hlong : p.cloud.attachments.length + 1 < UInt64.size)
    (hpages : p.cloud.attachments.length + 1 < limits.pages) (hretries : 2 ≤ limits.poll.retries) :
    Bound { p with cloud := p.cloud.withNew instanceId volumeId } limits volumeId instanceId
      (p.cloud.newAttachment instanceId volumeId) := by
  have hnew : (p.cloud.withNew instanceId volumeId).binding volumeId =
      some (p.cloud.newAttachment instanceId volumeId) := by
    rw [Cloud.binding_withNew hb, if_pos rfl]
  have hlength : (p.cloud.withNew instanceId volumeId).attachments.length =
      p.cloud.attachments.length + 1 := by
    rw [Cloud.withNew, List.length_append, List.length_singleton]
  exact {
    known := hknown
    binding := hnew
    byId := hsound.find?_newAttachment _ hb
    unscripted := hsound.unscripted
    owner := rfl
    listable := ⟨hsize, hlength ▸ hlong, hlength ▸ hpages⟩
    retries := hretries }

/-- Where a volume is free, an attach leads to `Cloud.newAttachment` in place. It is on its way there from
    the request on, and from then on no other attachment is made. -/
theorem converges_free (hp : Prepared p limits options node name session machine)
    (hlist : p.cloud.Listable limits)
    (hb : p.cloud.binding (volumeId session.regionKey name) = none)
    (hnew : Bound { p with cloud := p.cloud.withNew machine.id (volumeId session.regionKey name) }
      limits (volumeId session.regionKey name) machine.id
      (p.cloud.newAttachment machine.id (volumeId session.regionKey name)))
    (hanswer : attachedAnswer (p.cloud.newAttachment machine.id (volumeId session.regionKey name)) =
      .ok status) :
    ∃ I final, I p ∧ Converges (BlockVolume.attach limits options node) I status final := by
  let a := p.cloud.newAttachment machine.id (volumeId session.regionKey name)
  let p₁ : Picture :=
    { p with cloud := p.cloud.withNew machine.id (volumeId session.regionKey name) }
  have hlater := converges_bound (hp.of_scene (q := p₁) rfl) hnew hanswer
  have hattach := leads_attach_free session.compartmentId machine.id hlist hb
  have hknown : volumeId session.regionKey name ∈ p.cloud.volumes := hnew.known
  rw [if_pos hknown, Picture.after, Cloud.respond_attachVolume_free hknown hb] at hattach
  have hrest := leads_attachTo
    (hattach.mono (F := fun q => q = p ∨ q = p₁ ∨ q = p₁.withAttachment a.id .attached)
      fun _ => .inl)
    hnew.unscripted hnew.byId rfl hnew.retries (.inr (.inl rfl)) (.inr (.inr rfl))
  rw [hanswer] at hrest
  have hfirst := leads_blockAttach hp.named hp.opens (hp.resolves p rfl) hrest (.inl rfl)
  exact ⟨_, _, .inl rfl, hlater.before hfirst⟩

/-! ## What an attach that succeeds has found -/

variable {d d' : Disturbed}

/-- A `BlockVolume.attach` that succeeds was `Prepared` for what follows. -/
theorem prepared_of_success (hd : Shows p d)
    (hrun : Fallible.runs Disturbed.act (BlockVolume.attach limits options node) d =
      (.ok status, d')) :
    ∃ name session machine d₁, Prepared p limits options node name session machine ∧ Shows p d₁ ∧
      Fallible.runs Disturbed.act
        (attachTo limits session (volumeId session.regionKey name) machine) d₁ =
          (.ok status, d') := by
  rw [attach_eq_attachTo] at hrun
  obtain ⟨name, d₁, hname, hd₁, h₁⟩ :=
    (leads_volumeOf options fun _ => True).proceeds hd hrun
  obtain ⟨session, d₂, hsession, hd₂, h₂⟩ :=
    (leads_onController (leads_connect (E := fun _ => True)) .connect).proceeds hd₁ h₁
  have hopens := ok_of_mapError hsession
  obtain ⟨r, hr⟩ := settled_resolveNode limits (s := p.scene) (scope_cachePath hopens) node
  obtain ⟨machine, d₃, hmachine, hd₃, h₃⟩ :=
    (leads_onController (hr p rfl) .resolve).proceeds hd₂ h₂
  refine ⟨name, session, machine, d₃, ⟨volumeName_of_ok hname, hopens, ?_⟩, hd₃, h₃⟩
  rw [← ok_of_mapError hmachine]
  exact hr

/-- A `Controller.attach` of a volume that is not known fails, unless a fault has it otherwise. -/
theorem attach_unknown_fails {compartmentId instanceId volumeId : String} {b : VolumeAttachment}
    (hd : Shows p d) (hunknown : volumeId ∉ p.cloud.volumes) :
    (Fallible.runs Disturbed.control
      (Controller.attach limits compartmentId instanceId volumeId) d).1 ≠ .ok b := by
  have hask := ((leads_request (E := fun _ => True) (.attachVolume instanceId volumeId)
    trivial).shows hd).1
  rw [Cloud.respond_attachVolume_unknown hunknown] at hask
  have hrun := Fallible.runs_bind_ok (f := takeAnswer limits compartmentId instanceId volumeId)
    (Fallible.runs_outcome Disturbed.control (request (.attachVolume instanceId volumeId)) d)
  rw [hask] at hrun
  rw [attach_eq]
  intro h
  have himpossible := (congrArg Prod.fst hrun).symm.trans h
  cases himpossible

/-- An `attachTo` that succeeds has looked as often as `looksFor` says, and answers with the attachment's
    device. -/
theorem attachTo_success {p' : Picture} {E : Picture → Prop} {volumeId : String}
    (hattach : ControllerLeads p (Controller.attach limits session.compartmentId machine.id volumeId)
      (.ok a) p' E)
    (h : p'.cloud.attachmentStates.Drained)
    (ha : p'.cloud.attachments.find? (Cloud.isAttachment a.id) = some a) (hlive : a.state.isLive)
    (hd : Shows p d)
    (hrun : Fallible.runs Disturbed.act (attachTo limits session volumeId machine) d =
      (.ok status, d')) :
    looksFor a.state ≤ limits.poll.retries ∧ attachedAnswer a = .ok status := by
  have hretries : looksFor a.state ≤ limits.poll.retries := by
    refine Nat.le_of_not_lt fun hshort => ?_
    obtain ⟨_, d₁, hrequested, hd₁, h₁⟩ := (leads_onController hattach _).proceeds hd hrun
    cases hrequested
    obtain ⟨fault, p'', hwait⟩ := leads_waitForAttached_short h ha hlive hshort
    obtain ⟨_, _, himpossible, _⟩ := (leads_onController hwait _).proceeds hd₁ h₁
    cases himpossible
  have hends := (leads_attachTo (hattach.mono (F := fun _ => True) fun _ _ => trivial) h ha hlive
    hretries trivial trivial).shows hd
  rw [hrun] at hends
  exact ⟨hretries, hends.1.symm⟩

/-- **A `BlockVolume.attach` that can succeed converges.** -/
theorem converges_blockAttach (hsound : p.cloud.Sound) (hsize : p.cloud.pageSize ≠ some 0)
    (hlong : p.cloud.attachments.length + 1 < UInt64.size)
    (hpages : p.cloud.attachments.length + 1 < limits.pages) (hd : Shows p d)
    (hrun : Fallible.runs Disturbed.act (BlockVolume.attach limits options node) d =
      (.ok status, d')) :
    ∃ I status final, I p ∧ Converges (BlockVolume.attach limits options node) I status final := by
  obtain ⟨name, session, machine, d₁, hp, hd₁, h₁⟩ := prepared_of_success hd hrun
  have hlist : p.cloud.Listable limits :=
    ⟨hsize, Nat.lt_of_succ_lt hlong, Nat.lt_of_succ_lt hpages⟩
  -- It would not have succeeded for a volume that is not known or belongs to another instance.
  have hknown : volumeId session.regionKey name ∈ p.cloud.volumes := by
    refine Decidable.byContradiction fun hunknown => ?_
    obtain ⟨requested, _, hrequest, _⟩ := Fallible.ok_of_runs_bind h₁
    rw [runs_onController] at hrequest
    exact attach_unknown_fails hd₁ hunknown (ok_of_mapError (congrArg Prod.fst hrequest))
  cases hb : p.cloud.binding (volumeId session.regionKey name) with
  | none =>
    have hattach := leads_attach_free session.compartmentId machine.id hlist hb
    rw [if_pos hknown, Picture.after, Cloud.respond_attachVolume_free hknown hb] at hattach
    obtain ⟨hretries, hanswer⟩ := attachTo_success hattach hsound.unscripted
      (hsound.find?_newAttachment _ hb) rfl hd₁ h₁
    obtain ⟨I, final, hI, hconverges⟩ := converges_free hp hlist hb
      (bound_withNew hsound hb hknown hsize hlong hpages hretries) hanswer
    exact ⟨I, status, final, hI, hconverges⟩
  | some a =>
    have hid := hsound.find?_id (Cloud.binding_spec hb).1
    have hattach := leads_attach_bound session.compartmentId machine.id hlist hknown hb
    have howner : a.instanceId = machine.id := by
      refine Decidable.byContradiction fun hother => ?_
      rw [owned, if_neg hother] at hattach
      obtain ⟨_, _, himpossible, _⟩ := (leads_onController hattach _).proceeds hd₁ h₁
      cases himpossible
    rw [owned, if_pos howner] at hattach
    obtain ⟨hretries, hanswer⟩ := attachTo_success hattach hsound.unscripted hid
      (Cloud.binding_spec hb).2.2 hd₁ h₁
    exact ⟨_, _, _, .inl rfl, converges_bound hp
      ⟨hknown, hb, hid, hsound.unscripted, howner, hlist, hretries⟩ hanswer⟩

end VolumeDriver.InMemory
