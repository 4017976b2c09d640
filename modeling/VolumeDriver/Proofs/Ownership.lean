import VolumeDriver.Proofs.BlockVolume.CallOuts
set_option autoImplicit false

/-! # Call-outs one after the other

What attaches, detaches and looks for block volumes answer, one after the other, is what a map answers
that knows no attachments: for each volume the instance that it belongs to (`Owners`). The attachments
pile up meanwhile, for one that is undone stays on record. What ties them to the map is the one live
attachment of each volume (`Cloud.Tracks`); each call-out keeps that tie. -/

namespace VolumeDriver.InMemory

open ControlPlane Controller

/-! ## Call-outs and owners -/

/-- A call-out that attaches a volume, detaches it or looks for it, each about the volume of some name. -/
inductive VolumeCallOut
  | attach (options : Options) (node : String)
  | detach (volume node : String)
  | isAttached (options : Options) (node : String)

/-- The `CallOut` among all. -/
def VolumeCallOut.callOut : VolumeCallOut → CallOut
  | attach options node => .attach options node
  | detach volume node => .detach volume node
  | isAttached options node => .isAttached options node

/-- The flow with which `BlockVolume.driver` answers a call-out. -/
def VolumeCallOut.flow (timing : Timing) (c : VolumeCallOut) : Answering :=
  (BlockVolume.driver timing).dispatch c.callOut

/-- The answers of the `flow`s of call-outs that come one after the other, and the world afterwards. -/
def answerAll (timing : Timing) : List VolumeCallOut → World → List Status × World
  | [], w => ([], w)
  | c :: rest, w =>
    let (status, w) := (c.flow timing).run World.act w
    let (statuses, w) := answerAll timing rest w
    (status :: statuses, w)

/-- For each volume the instance that it belongs to, if there is one. -/
abbrev Owners : Type := String → Option String

namespace Owners

/-- The `Owners` of nothing: no volume belongs to any instance. -/
def free : Owners := fun _ => none

/-- The `Owners` after a volume has changed hands. -/
def set (owners : Owners) (volumeId : String) (owner : Option String) : Owners :=
  fun other => if other = volumeId then owner else owners other

theorem eq_of_set {owners : Owners} {volumeId : String} {owner : Option String}
    (h : owners.set volumeId owner = owners) : owner = owners volumeId := by
  have hv := congrFun h volumeId
  rwa [set, if_pos rfl] at hv

end Owners

/-- The device of an attached volume: the path of the target that the control plane makes for it. -/
def deviceOf (volumeId : String) : String :=
  IscsiTarget.devicePath ⟨⟨169, 254, 2, 2⟩, Cloud.targetPort, Cloud.targetName volumeId,
    IscsiTarget.defaultLun⟩

/-- The answer of an attach that has succeeded, with the volume's `deviceOf`. -/
def attachedStatus (volumeId : String) : Status :=
  { Status.success with device := some (deviceOf volumeId) }

/-- What decides answers besides the `Owners`: the volumes that there are, and what nodes resolve to. -/
structure Setting where
  regionKey : String
  /-- the volumes that there are -/
  volumes : List String
  /-- the instance that a node is -/
  resolve : String → Except DriverFault Instance

namespace Setting

/-- The answer to an attach of a volume to an instance, and the `Owners` afterwards. A volume that belongs
    to another instance is refused. -/
def attach (s : Setting) (owners : Owners) (volumeId : String) (machine : Instance) :
    Status × Owners :=
  match owners volumeId with
  | some owner =>
    if owner = machine.id then (attachedStatus volumeId, owners)
    else (.failure (AttachmentFault.attachedElsewhere volumeId owner).message, owners)
  | none =>
    if volumeId ∈ s.volumes then
      (attachedStatus volumeId, owners.set volumeId (some machine.id))
    else (.failure (Cloud.notFound "AttachVolume" volumeId).message, owners)

/-- The answer to a call-out by the `Owners` alone, and the owners afterwards. -/
def answer (s : Setting) (owners : Owners) : VolumeCallOut → Status × Owners
  | .attach options node =>
    match options.volumeName? with
    | none => (.failure DriverFault.missingVolumeName.message, owners)
    | some name =>
      match s.resolve node with
      | .error fault => (.failure fault.message, owners)
      | .ok machine => s.attach owners (volumeId s.regionKey name) machine
  | .detach volume _ =>
    let id := volumeId s.regionKey volume
    match owners id with
    | none => (.failure (AttachmentFault.notFound id).message, owners)
    | some _ => (.success, owners.set id none)
  | .isAttached options _ =>
    match options.volumeName? with
    | none => (.failure DriverFault.missingVolumeName.message, owners)
    | some name =>
      let id := volumeId s.regionKey name
      match owners id with
      | none => (.successWith (AttachmentFault.notFound id).message, owners)
      | some _ => ({ Status.success with attached := true }, owners)

/-- The answers to call-outs that come one after the other by `Setting.answer`, and the `Owners`
    afterwards. -/
def answerAll (s : Setting) : List VolumeCallOut → Owners → List Status × Owners
  | [], owners => ([], owners)
  | c :: rest, owners =>
    let (status, owners) := s.answer owners c
    let (statuses, owners) := s.answerAll rest owners
    (status :: statuses, owners)

end Setting

/-- What decides answers in a world to which `session` leads. -/
def World.setting (w : World) (limits : Limits) (session : Session) : Setting where
  regionKey := session.regionKey
  volumes := w.cloud.volumes
  resolve node :=
    (Fallible.runs World.act
      (onController .resolve (resolveNode limits session.scope node)) w).1

/-! ## The tie between attachments and owners -/

/-- Whether a control plane holds what the `Owners` say: each volume is bound for its owner
    (`Cloud.binding`), by an attachment in place. -/
structure Cloud.Tracks (c : Cloud) (owners : Owners) : Prop where
  sound : c.Sound
  one : AtMostOneLive c.attachments
  owner : ∀ v, (c.binding v).map VolumeAttachment.instanceId = owners v
  settled : ∀ v a, c.binding v = some a →
    v ∈ c.volumes ∧ a.state = .attached ∧ attachedAnswer a = .ok (attachedStatus v)

namespace Cloud

variable {c : Cloud} {owners : Owners} {v : String} {a : VolumeAttachment}

theorem targetName_ne_empty (v : String) : targetName v ≠ "" :=
  fun h => absurd (String.append_eq_empty_iff.1 h).1 (by decide +kernel)

theorem attachedAnswer_newAttachment (c : Cloud) (instanceId v : String) :
    attachedAnswer (c.newAttachment instanceId v) = .ok (attachedStatus v) := by
  have hip : Ipv4.parse? targetAddress.toList = some ⟨169, 254, 2, 2⟩ := by decide +kernel
  have hname : (some (targetName v)).filter (· ≠ "") = some (targetName v) :=
    Option.filter_some_pos (decide_eq_true (targetName_ne_empty v))
  have htarget : (c.newAttachment instanceId v).target =
      .ok ⟨⟨169, 254, 2, 2⟩, targetPort, targetName v, IscsiTarget.defaultLun⟩ := by
    simp only [VolumeAttachment.target, newAttachment, hip, hname, bind, Except.bind, pure,
      Except.pure]
  rw [attachedAnswer, VolumeAttachment.devicePath, htarget]
  rfl

/-- A new attachment that is in place makes its instance the owner in `Tracks`. -/
theorem Tracks.attach (h : c.Tracks owners) (hb : c.binding v = none) (hv : v ∈ c.volumes)
    (instanceId : String) :
    ((c.withNew instanceId v).setAttachmentState (c.newAttachment instanceId v).id
      .attached).Tracks (owners.set v (some instanceId)) := by
  let new := c.newAttachment instanceId v
  have hsound : (c.withNew instanceId v).Sound := h.sound.shift (shift_withNew hb) rfl
  have hnew : (c.withNew instanceId v).binding v = some new := by
    rw [binding_withNew hb, if_pos rfl]
  have hid := h.sound.find?_newAttachment instanceId hb
  have hshift : Shift (c.withNew instanceId v)
      ((c.withNew instanceId v).setAttachmentState new.id .attached) :=
    shift_setAttachmentState hid (fun _ => rfl) rfl rfl
  -- Other volumes are bound as before.
  have hbinding : ∀ other,
      ((c.withNew instanceId v).setAttachmentState new.id .attached).binding other =
        if other = v then some { new with state := .attached } else c.binding other := by
    intro other
    rw [binding_setAttachmentState_live hnew hid rfl, binding_withNew hb]
    by_cases ho : other = v
    · rw [if_pos ho, if_pos ho]
    · rw [if_neg ho, if_neg ho, if_neg ho]
  refine ⟨hsound.shift hshift rfl, hshift.atMostOneLive ((shift_withNew hb).atMostOneLive h.one),
    ?_, ?_⟩
  · intro other
    rw [hbinding, Owners.set]
    by_cases ho : other = v
    · rw [if_pos ho, if_pos ho]
      rfl
    · rw [if_neg ho, if_neg ho, h.owner]
  · intro other a ha
    rw [hbinding] at ha
    by_cases ho : other = v
    · rw [if_pos ho] at ha
      cases ha
      rw [ho]
      exact ⟨hv, rfl, attachedAnswer_newAttachment c instanceId v⟩
    · rw [if_neg ho] at ha
      exact h.settled other a ha

/-- An attachment that is undone leaves its volume without owner in `Tracks`. -/
theorem Tracks.detach (h : c.Tracks owners) (hb : c.binding v = some a) :
    (c.setAttachmentState a.id .detached).Tracks (owners.set v none) := by
  have hid := h.sound.find?_id (binding_spec hb).1
  have hshift : Shift c (c.setAttachmentState a.id .detached) :=
    shift_setAttachmentState hid (fun h => by cases h) rfl rfl
  have hbinding : ∀ other, (c.setAttachmentState a.id .detached).binding other =
      if other = v then none else c.binding other :=
    binding_setAttachmentState_dead h.one hb hid (by decide)
  refine ⟨h.sound.shift hshift rfl, hshift.atMostOneLive h.one, ?_, ?_⟩
  · intro other
    rw [hbinding, Owners.set]
    by_cases ho : other = v
    · rw [if_pos ho, if_pos ho]
      rfl
    · rw [if_neg ho, if_neg ho, h.owner]
  · intro other b hother
    rw [hbinding] at hother
    by_cases ho : other = v
    · rw [if_pos ho] at hother
      cases hother
    · rw [if_neg ho] at hother
      exact h.settled other b hother

end Cloud

/-! ## One call-out -/

/-- Whether a `Setting` is that of a scene, with the session that it leads to. -/
structure Setting.IsOf (s : Setting) (scene : Picture) (limits : Limits) (session : Session) :
    Prop where
  opens : scene.session = .ok session
  regionKey : s.regionKey = session.regionKey
  volumes : s.volumes = scene.cloud.volumes
  resolve : ∀ node, ∃ r, s.resolve node = r.mapError .resolve ∧ ∀ p : Picture, p.scene = scene →
    ControllerLeads p (resolveNode limits session.scope node) r p (· = p)

/-- What a call-out comes to in a picture that `Tracks` owners: an answer, and owners that are tracked
    again. -/
def StepsTo (timing : Timing) (p : Picture) (c : VolumeCallOut) (owners : Owners)
    (next : Status × Owners) : Prop :=
  ∃ p', Answers p (c.flow timing) next.1 p' ∧ p'.scene = p.scene ∧ p'.cloud.Tracks next.2 ∧
    p'.cloud.attachments.length ≤ p.cloud.attachments.length + 1 ∧ (next.2 = owners → p' = p)

section Step

variable {timing : Timing} {p : Picture} {owners : Owners} {s : Setting} {session : Session}

/-- A call-out that leaves the picture as it is leaves the `Owners` as they are. -/
theorem StepsTo.idle {c : VolumeCallOut} {status : Status} (ht : p.cloud.Tracks owners)
    (h : Answers p (c.flow timing) status p) : StepsTo timing p c owners (status, owners) :=
  ⟨p, h, rfl, ht, Nat.le_succ _, fun _ => rfl⟩

section Attach

variable {options : Options} {node name : String} {machine : Instance} {a : VolumeAttachment}
  (hsession : p.session = .ok session) (ht : p.cloud.Tracks owners)
  (hlist : p.cloud.Listable timing.limits) (hname : options.volumeName? = some name)
  (hresolve : ControllerLeads p (resolveNode timing.limits session.scope node) (.ok machine) p
    (· = p))

include hsession ht hlist hname hresolve

theorem attach_owner (hretries : 2 ≤ timing.limits.poll.retries)
    (hb : p.cloud.binding (volumeId session.regionKey name) = some a)
    (howner : a.instanceId = machine.id) :
    Answers p ((VolumeCallOut.attach options node).flow timing)
      (attachedStatus (volumeId session.regionKey name)) p := by
  obtain ⟨hknown, hstate, hanswer⟩ := ht.settled _ a hb
  have hid := ht.sound.find?_id (Cloud.binding_spec hb).1
  have hsame : p.withAttachment a.id .attached = p := by
    rw [Picture.withAttachment, Cloud.setAttachmentState_of_eq hid hstate]
  have hattach := leads_attach_bound session.compartmentId machine.id hlist hknown hb
  rw [owned, if_pos howner] at hattach
  have hlooks : looksFor a.state ≤ timing.limits.poll.retries := by
    rw [hstate]
    exact Nat.le_of_succ_le hretries
  have hrest := leads_attachTo hattach ht.sound.unscripted hid (Cloud.binding_spec hb).2.2 hlooks
    rfl hsame
  rw [hsame, hanswer] at hrest
  exact (leads_blockAttach hname hsession hresolve hrest rfl).answers

theorem attach_elsewhere (hb : p.cloud.binding (volumeId session.regionKey name) = some a)
    (howner : a.instanceId ≠ machine.id) :
    Answers p ((VolumeCallOut.attach options node).flow timing)
      (.failure (AttachmentFault.attachedElsewhere (volumeId session.regionKey name)
        a.instanceId).message) p := by
  have hattach := leads_attach_bound session.compartmentId machine.id hlist (ht.settled _ a hb).1 hb
  rw [owned, if_neg howner] at hattach
  exact (leads_blockAttach hname hsession hresolve (leads_attachTo_error hattach) rfl).answers

omit ht in
theorem attach_unknown (hb : p.cloud.binding (volumeId session.regionKey name) = none)
    (hunknown : volumeId session.regionKey name ∉ p.cloud.volumes) :
    Answers p ((VolumeCallOut.attach options node).flow timing)
      (.failure (Cloud.notFound "AttachVolume" (volumeId session.regionKey name)).message) p := by
  have hattach := leads_attach_free session.compartmentId machine.id hlist hb
  rw [if_neg hunknown, Picture.after, Cloud.respond_attachVolume_unknown hunknown] at hattach
  exact (leads_blockAttach hname hsession hresolve (leads_attachTo_error hattach) rfl).answers

omit ht in
theorem attach_free (hsound : p.cloud.Sound) (hretries : 2 ≤ timing.limits.poll.retries)
    (hb : p.cloud.binding (volumeId session.regionKey name) = none)
    (hknown : volumeId session.regionKey name ∈ p.cloud.volumes) :
    Answers p ((VolumeCallOut.attach options node).flow timing)
      (attachedStatus (volumeId session.regionKey name))
      (({ p with cloud := p.cloud.withNew machine.id (volumeId session.regionKey name) } :
        Picture).withAttachment
          (p.cloud.newAttachment machine.id (volumeId session.regionKey name)).id .attached) := by
  have hattach := leads_attach_free session.compartmentId machine.id hlist hb
  rw [if_pos hknown, Picture.after, Cloud.respond_attachVolume_free hknown hb] at hattach
  have hrest := leads_attachTo (hattach.mono (F := fun _ => True) fun _ _ => trivial)
    hsound.unscripted (hsound.find?_newAttachment _ hb) rfl hretries trivial trivial
  rw [Cloud.attachedAnswer_newAttachment] at hrest
  exact (leads_blockAttach hname hsession hresolve hrest trivial).answers

/-- Whatever an attach comes to when its node is resolved, `Setting.attach` has it so. -/
theorem attach_steps (hvolumes : s.volumes = p.cloud.volumes)
    (hretries : 2 ≤ timing.limits.poll.retries) :
    StepsTo timing p (.attach options node) owners
      (s.attach owners (volumeId session.regionKey name) machine) := by
  have howner := ht.owner (volumeId session.regionKey name)
  rw [Setting.attach, hvolumes]
  cases hb : p.cloud.binding (volumeId session.regionKey name) with
  | none =>
    rw [hb] at howner
    rw [← howner]
    dsimp only [Option.map_none]
    split
    · rename_i hknown
      refine ⟨_, attach_free hsession hlist hname hresolve ht.sound hretries hb hknown, rfl,
        ht.attach hb hknown machine.id, ?_, ?_⟩
      · rw [Picture.withAttachment, Cloud.length_setAttachmentState, Cloud.withNew,
          List.length_append]
        exact Nat.le_refl _
      · intro hsame
        cases (Owners.eq_of_set hsame).trans howner.symm
    · rename_i hunknown
      exact .idle ht (attach_unknown hsession hlist hname hresolve hb hunknown)
  | some a =>
    rw [hb] at howner
    rw [← howner]
    dsimp only [Option.map_some]
    split
    · rename_i heq
      exact .idle ht (attach_owner hsession ht hlist hname hresolve hretries hb heq)
    · rename_i hne
      exact .idle ht (attach_elsewhere hsession ht hlist hname hresolve hb hne)

end Attach

theorem detach_steps {volume node : String} (hsession : p.session = .ok session)
    (ht : p.cloud.Tracks owners) (hlist : p.cloud.Listable timing.limits)
    (hregion : s.regionKey = session.regionKey) (hretries : 2 ≤ timing.limits.poll.retries) :
    StepsTo timing p (.detach volume node) owners (s.answer owners (.detach volume node)) := by
  have howner := ht.owner (volumeId session.regionKey volume)
  simp only [Setting.answer, hregion]
  cases hb : p.cloud.binding (volumeId session.regionKey volume) with
  | none =>
    rw [hb] at howner
    rw [← howner]
    exact .idle ht (leads_detach_free node hsession hlist hb).answers
  | some a =>
    rw [hb] at howner
    rw [← howner]
    have hid := ht.sound.find?_id (Cloud.binding_spec hb).1
    have hdetach := leads_detach_bound node hsession hlist ht.sound.unscripted hb hid
      hretries
    refine ⟨_, hdetach.answers, rfl, ht.detach hb, ?_, ?_⟩
    · rw [Picture.withAttachment, Cloud.length_setAttachmentState]
      exact Nat.le_succ _
    · intro hsame
      cases (Owners.eq_of_set hsame).trans howner.symm

theorem isAttached_steps {options : Options} {node : String} (hsession : p.session = .ok session)
    (ht : p.cloud.Tracks owners) (hlist : p.cloud.Listable timing.limits)
    (hregion : s.regionKey = session.regionKey) :
    StepsTo timing p (.isAttached options node) owners
      (s.answer owners (.isAttached options node)) := by
  simp only [Setting.answer, hregion]
  cases hname : options.volumeName? with
  | none =>
    have hnameless : DriverLeads p (BlockVolume.isAttached timing.limits options node)
        (.error .missingVolumeName) p (· = p) :=
      (leads_volumeOf_none hname).bind_error
    exact .idle ht hnameless.answers
  | some name =>
    have howner := ht.owner (volumeId session.regionKey name)
    have hanswers := answers_isAttached node hname hsession hlist
    cases hb : p.cloud.binding (volumeId session.regionKey name) with
    | none =>
      rw [hb] at howner hanswers
      dsimp only
      rw [← howner]
      exact .idle ht hanswers
    | some a =>
      rw [hb] at howner hanswers
      dsimp only
      rw [← howner]
      exact .idle ht hanswers

/-- **Each call-out answers as the owners say** (`Setting.answer`) and keeps the tie to them
    (`Cloud.Tracks`). -/
theorem step (hs : s.IsOf p.scene timing.limits session) (ht : p.cloud.Tracks owners)
    (hlist : p.cloud.Listable timing.limits) (hretries : 2 ≤ timing.limits.poll.retries)
    (c : VolumeCallOut) : StepsTo timing p c owners (s.answer owners c) := by
  have hsession : p.session = .ok session := hs.opens
  cases c with
  | detach volume node => exact detach_steps hsession ht hlist hs.regionKey hretries
  | isAttached options node => exact isAttached_steps hsession ht hlist hs.regionKey
  | attach options node =>
    simp only [Setting.answer]
    cases hname : options.volumeName? with
    | none => exact .idle ht (leads_blockAttach_nameless hname).answers
    | some name =>
      obtain ⟨r, hr, hresolve⟩ := hs.resolve node
      rw [hr, hs.regionKey]
      cases r with
      | error fault =>
        exact .idle ht (leads_blockAttach_unresolved hname hsession (hresolve p rfl)).answers
      | ok machine =>
        exact attach_steps hsession ht hlist hname (hresolve p rfl) hs.volumes hretries

end Step

/-! ## Any number of call-outs -/

/-- Whether the owners and a world go together, with room in listings for `room` more attachments. -/
structure InStep (limits : Limits) (scene : Picture) (w : World) (owners : Owners) (room : Nat) :
    Prop where
  calm : w.Calm
  scene : w.picture.scene = scene
  tracks : w.picture.cloud.Tracks owners
  size : w.picture.cloud.pageSize ≠ some 0
  long : w.picture.cloud.attachments.length + room < UInt64.size
  pages : w.picture.cloud.attachments.length + room < limits.pages

section Run

variable {timing : Timing} {s : Setting} {session : Session} {scene : Picture} {w : World}
  {owners : Owners} {room : Nat}

theorem InStep.listable (h : InStep timing.limits scene w owners room) :
    w.picture.cloud.Listable timing.limits where
  size := h.size
  long := Nat.lt_of_le_of_lt (Nat.le_add_right _ _) h.long
  pages := Nat.lt_of_le_of_lt (Nat.le_add_right _ _) h.pages

/-- The owners and the world stay `InStep` through a call-out. -/
theorem InStep.step (hs : s.IsOf scene timing.limits session)
    (hretries : 2 ≤ timing.limits.poll.retries) (h : InStep timing.limits scene w owners (room + 1))
    (c : VolumeCallOut) :
    ((c.flow timing).run World.act w).1 = (s.answer owners c).1 ∧
      InStep timing.limits scene ((c.flow timing).run World.act w).2 (s.answer owners c).2 room ∧
      ((s.answer owners c).2 = owners →
        ((c.flow timing).run World.act w).2.picture = w.picture) := by
  obtain ⟨p', hanswers, hscene, htracks, hlength, hsame⟩ :=
    VolumeDriver.InMemory.step (h.scene ▸ hs) h.tracks h.listable hretries c
  obtain ⟨hstatus, hcalm, rfl⟩ := hanswers w h.calm rfl
  refine ⟨hstatus, ⟨hcalm, hscene.trans h.scene, htracks, ?_, ?_, ?_⟩, hsame⟩
  · have hsize := congrArg (fun q : Picture => q.cloud.pageSize) hscene
    exact fun h₀ => h.size (hsize.symm.trans h₀)
  · exact Nat.lt_of_le_of_lt (by omega) h.long
  · exact Nat.lt_of_le_of_lt (by omega) h.pages

theorem InStep.run (hs : s.IsOf scene timing.limits session)
    (hretries : 2 ≤ timing.limits.poll.retries) (callOuts : List VolumeCallOut)
    (h : InStep timing.limits scene w owners (room + callOuts.length)) :
    (answerAll timing callOuts w).1 = (s.answerAll callOuts owners).1 ∧
      InStep timing.limits scene (answerAll timing callOuts w).2 (s.answerAll callOuts owners).2
        room := by
  induction callOuts generalizing w owners with
  | nil => exact ⟨rfl, h⟩
  | cons c rest ih =>
    obtain ⟨hstatus, hnext, _⟩ := InStep.step hs hretries h c
    obtain ⟨hstatuses, hlast⟩ := ih hnext
    refine ⟨?_, hlast⟩
    simp only [answerAll, Setting.answerAll, hstatus, hstatuses]

end Run

/-- A world in which no attachment is live `Tracks` owners that own nothing. -/
theorem Cloud.tracks_free {c : Cloud} (h : c.Sound)
    (hdead : ∀ a ∈ c.attachments, a.state.isLive = false) : c.Tracks .free := by
  have hnone : ∀ v, c.binding v = none := by
    intro v
    rw [binding, List.find?_eq_none]
    intro a ha
    simp [isLiveOf, hdead a ha]
  refine ⟨h, ?_, ?_, ?_⟩
  · intro v
    have hcount : c.attachments.countP (isLiveOf v) = 0 :=
      List.countP_eq_zero.2 (List.find?_eq_none.1 (hnone v))
    omega
  · intro v
    rw [hnone]
    rfl
  · intro v a ha
    rw [hnone] at ha
    cases ha

theorem isOf_setting {w : World} (limits : Limits) {session : Session}
    (hsession : w.session = .ok session) (hw : w.Calm) :
    (w.setting limits session).IsOf w.picture.scene limits session := by
  refine ⟨hsession, rfl, rfl, fun node => ?_⟩
  obtain ⟨r, hr⟩ :=
    settled_resolveNode limits (s := w.picture.scene) (scope_cachePath hsession) node
  exact ⟨r, ((leads_onController (hr w.picture rfl) .resolve).runs hw rfl).1, hr⟩

/-- **Call-outs one after the other answer as a map of owners does.** Where no attachment is live to
    begin with, all answers are those of the map; afterwards a volume is bound exactly if it has an
    owner, and for that owner. A next call-out that leaves the owners as they are leaves the control
    plane as it is, but for its records, and a detach of a volume without owner does not even ask for
    anything to be undone. `hlong` and `hpages` let all listings be read to their ends: places in them
    are 64-bit numbers, and they have no more pages than items. -/
theorem callOuts_refine_owners (timing : Timing) {w : World} {session : Session}
    (hsession : w.session = .ok session) (hcalm : w.Calm) (hsound : w.cloud.Sound)
    (hdead : ∀ a ∈ w.cloud.attachments, a.state.isLive = false)
    (hsize : w.cloud.pageSize ≠ some 0) (hretries : 2 ≤ timing.limits.poll.retries)
    (callOuts : List VolumeCallOut)
    (hlong : w.cloud.attachments.length + callOuts.length < UInt64.size)
    (hpages : w.cloud.attachments.length + callOuts.length < timing.limits.pages) :
    let s := w.setting timing.limits session
    let (statuses, w') := answerAll timing callOuts w
    let (answers, owners) := s.answerAll callOuts .free
    statuses = answers ∧
    (∀ v, (w'.cloud.binding v).map VolumeAttachment.instanceId = owners v) ∧
    (∀ next, ((next.flow timing).run World.act w').1 = (s.answer owners next).1 ∧
      ((s.answer owners next).2 = owners →
        ((next.flow timing).run World.act w').2.cloud.unrecorded = w'.cloud.unrecorded)) ∧
    (∀ volume node, owners (volumeId session.regionKey volume) = none → ∃ calls,
      (((VolumeCallOut.detach volume node).flow timing).run World.act w').2.cloud.calls =
        w'.cloud.calls ++ calls ∧ "DetachVolume" ∉ calls) := by
  have hs := isOf_setting timing.limits hsession hcalm
  -- The tie is to the picture of the world, which leaves the records out.
  have hsound' : w.picture.cloud.Sound := hsound.unrecorded
  have hstart : InStep timing.limits w.picture.scene w .free (0 + callOuts.length) := by
    refine ⟨hcalm, rfl, Cloud.tracks_free hsound' hdead, hsize, ?_, ?_⟩
    · rwa [Nat.zero_add]
    · rwa [Nat.zero_add]
  obtain ⟨hstatuses, hend⟩ := InStep.run hs hretries callOuts hstart
  refine ⟨hstatuses, hend.tracks.owner, ?_, ?_⟩
  · intro next
    obtain ⟨p', hanswers, _, _, _, hsame⟩ :=
      step (hend.scene ▸ hs) hend.tracks hend.listable hretries next
    obtain ⟨hstatus, _, hpicture⟩ := hanswers _ hend.calm rfl
    refine ⟨hstatus, fun howners => ?_⟩
    exact congrArg Picture.cloud (hpicture.trans (hsame howners))
  · intro volume node hfree
    have hb : (answerAll timing callOuts w).2.picture.cloud.binding
        (volumeId session.regionKey volume) = none := by
      have howner := hend.tracks.owner (volumeId session.regionKey volume)
      exact Option.map_eq_none_iff.1 (howner.trans hfree)
    have hopens : (answerAll timing callOuts w).2.picture.session = .ok session :=
      (congrArg Picture.session hend.scene).trans hsession
    exact calls_detach_free node hend.calm hopens hend.listable hb

/-- Two running nodes, and a volume that was attached to the first one before. -/
def handoverWorld : World where
  cloud := {
    lastId := 1
    pageSize := some 1
    volumes := ["ocid1.volume.a"]
    attachments := [⟨Cloud.madeUpId "volumeattachment" 1, "ocid1.volume.a", "one", .detached, "iscsi",
      none, none, none⟩]
    instances := [⟨"one", "node-1", .running⟩, ⟨"two", "node-2", .running⟩] }
  config := some {}

/-- The volume goes to the first node and, when that one has let go of it, to the second one. -/
def handover : List VolumeCallOut :=
  let options : Options := ⟨.ofList [(Options.volumeNameKey, "ocid1.volume.a")]⟩
  [.detach "ocid1.volume.a" "node-1", .attach options "node-1", .attach options "node-1",
    .attach options "node-2", .detach "ocid1.volume.a" "node-1", .isAttached options "node-1",
    .attach options "node-2", .attach options "node-3"]

theorem sound_handoverWorld : handoverWorld.cloud.Sound :=
  .of_one rfl rfl (Nat.le_refl 1) (by decide)

/-- In `handover` the second node gets the volume only when the first one has let go of it. -/
theorem handover_refines_owners :
    (answerAll {} handover handoverWorld).1.map Status.outcome =
      [.failure, .success, .success, .failure, .success, .success, .success, .failure] ∧
    let session : Session := ⟨{}, VnicCache.fileName⟩
    let s := handoverWorld.setting {} session
    let (statuses, w') := answerAll {} handover handoverWorld
    let (answers, owners) := s.answerAll handover .free
    statuses = answers ∧
    (∀ v, (w'.cloud.binding v).map VolumeAttachment.instanceId = owners v) ∧
    (∀ next : VolumeCallOut, ((next.flow {}).run World.act w').1 = (s.answer owners next).1 ∧
      ((s.answer owners next).2 = owners →
        ((next.flow {}).run World.act w').2.cloud.unrecorded = w'.cloud.unrecorded)) ∧
    (∀ volume node, owners (volumeId session.regionKey volume) = none → ∃ calls,
      (((VolumeCallOut.detach volume node).flow {}).run World.act w').2.cloud.calls =
        w'.cloud.calls ++ calls ∧ "DetachVolume" ∉ calls) := by
  refine ⟨by decide +kernel, ?_⟩
  exact callOuts_refine_owners {} (w := handoverWorld) rfl (by decide)
    sound_handoverWorld (by decide) (by decide) (by decide) handover (by decide) (by decide)

end VolumeDriver.InMemory
