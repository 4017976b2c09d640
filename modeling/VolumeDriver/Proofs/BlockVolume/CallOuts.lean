import VolumeDriver.Driver.BlockVolume
import VolumeDriver.Proofs.BlockVolume.Leads
import VolumeDriver.Proofs.InMemory.Asked
import VolumeDriver.Proofs.InMemory.Resolution
set_option autoImplicit false

/-! # Where call-outs for block volumes lead

An attach resolves its node, which is up to the scene, and what it leads to then (`attachTo`) is up to the
attachment that binds the volume. So it is for a detach from the start. -/

namespace VolumeDriver.InMemory

open ControlPlane Controller

variable {p : Picture} {limits : Limits} {options : Options} {node name volume : String}
  {session : Session} {machine : Instance} {a : VolumeAttachment} {E : Picture → Prop}

/-! ## Attaching -/

/-- What follows in `BlockVolume.attach` when the instance is known. -/
def attachTo (limits : Limits) (session : Session) (volumeId : String) (machine : Instance) :
    DriverRun Status := do
  let requested ←
    onController .attachment (Controller.attach limits session.compartmentId machine.id volumeId)
  let attachment ← onController .attachment (Controller.waitForAttached limits requested.id)
  let device ← Fallible.wrap .attachment (.ofExcept attachment.devicePath)
  return { Status.success with device := some device }

theorem attach_eq_attachTo : BlockVolume.attach limits options node =
    volumeOf options >>= fun name => openSession >>= fun session =>
      onController .resolve (resolveNode limits session.scope node) >>=
        attachTo limits session (volumeId session.regionKey name) :=
  rfl

/-- What `attachTo` answers when it has seen the attachment in place: its device. -/
def attachedAnswer (a : VolumeAttachment) : Except DriverFault Status :=
  (a.devicePath.mapError .attachment).map fun device =>
    { Status.success with device := some device }

/-- When `Controller.attach` leads to an attachment that is live, `attachTo` ends with it in place, if the
    wait may look as often as `looksFor` says. -/
theorem leads_attachTo {p' : Picture} {volumeId : String}
    (hattach : ControllerLeads p (Controller.attach limits session.compartmentId machine.id volumeId)
      (.ok a) p' E)
    (h : p'.cloud.attachmentStates.Drained)
    (ha : p'.cloud.attachments.find? (Cloud.isAttachment a.id) = some a) (hlive : a.state.isLive)
    (hretries : looksFor a.state ≤ limits.poll.retries)
    (hE : E p') (hE' : E (p'.withAttachment a.id .attached)) :
    DriverLeads p (attachTo limits session volumeId machine) (attachedAnswer a)
      (p'.withAttachment a.id .attached) E := by
  refine (leads_onController hattach _).bind ?_
  refine (leads_onController (leads_waitForAttached h ha hlive hretries hE hE') _).bind ?_
  have hdevice : ({ a with state := .attached } : VolumeAttachment).devicePath = a.devicePath := rfl
  have hwrap : DriverLeads (p'.withAttachment a.id .attached)
      (Fallible.wrap .attachment (.ofExcept a.devicePath)) (a.devicePath.mapError .attachment)
      (p'.withAttachment a.id .attached) E :=
    (leads_ofExcept a.devicePath).wrap _
  rw [hdevice, attachedAnswer]
  cases hd : a.devicePath with
  | ok device =>
    rw [hd] at hwrap
    exact hwrap.bind (leads_pure _)
  | error fault =>
    rw [hd] at hwrap
    exact hwrap.bind_error

/-- An attach fails in `attachTo` as `Controller.attach` does. -/
theorem leads_attachTo_error {p' : Picture} {volumeId : String} {fault : AttachmentFault}
    (hattach : ControllerLeads p (Controller.attach limits session.compartmentId machine.id volumeId)
      (.error fault) p' E) :
    DriverLeads p (attachTo limits session volumeId machine) (.error (.attachment fault)) p' E :=
  (leads_onController hattach _).bind_error

section Resolved

variable (hname : options.volumeName? = some name) (hsession : p.session = .ok session)

include hname hsession

theorem leads_blockAttach {r : Except DriverFault Status} {p' : Picture}
    (hresolve : ControllerLeads p (resolveNode limits session.scope node) (.ok machine) p (· = p))
    (hrest : DriverLeads p (attachTo limits session (volumeId session.regionKey name) machine) r p' E)
    (hE : E p) :
    DriverLeads p (BlockVolume.attach limits options node) r p' E := by
  rw [attach_eq_attachTo]
  refine (leads_volumeOf_some hname).bind ((leads_openSession hsession).bind ?_)
  refine (leads_onController (hresolve.mono ?_) _).bind hrest
  rintro q rfl
  exact hE

theorem leads_blockAttach_unresolved {fault : ResolveFault}
    (hresolve : ControllerLeads p (resolveNode limits session.scope node) (.error fault) p (· = p)) :
    DriverLeads p (BlockVolume.attach limits options node) (.error (.resolve fault)) p (· = p) := by
  rw [attach_eq_attachTo]
  refine (leads_volumeOf_some hname).bind ((leads_openSession hsession).bind ?_)
  exact (leads_onController hresolve _).bind_error

end Resolved

theorem leads_blockAttach_nameless (hname : options.volumeName? = none) :
    DriverLeads p (BlockVolume.attach limits options node) (.error .missingVolumeName) p (· = p) :=
  (leads_volumeOf_none hname).bind_error

/-! ## Detaching -/

variable (node) in
theorem leads_detach_free (hsession : p.session = .ok session) (h : p.cloud.Listable limits)
    (hb : p.cloud.binding (volumeId session.regionKey volume) = none) :
    DriverLeads p (BlockVolume.detach limits volume node)
      (.error (.attachment (.notFound (volumeId session.regionKey volume)))) p (· = p) := by
  have hfind := leads_findAttachment session.compartmentId (volumeId session.regionKey volume) h
  rw [hb] at hfind
  exact (leads_openSession hsession).bind (leads_onController hfind _).bind_error

variable (node) in
theorem leads_detach_bound (hsession : p.session = .ok session) (h : p.cloud.Listable limits)
    (hstates : p.cloud.attachmentStates.Drained)
    (hb : p.cloud.binding (volumeId session.regionKey volume) = some a)
    (ha : p.cloud.attachments.find? (Cloud.isAttachment a.id) = some a)
    (hretries : 2 ≤ limits.poll.retries) :
    DriverLeads p (BlockVolume.detach limits volume node) (.ok .success)
      (p.withAttachment a.id .detached) (fun _ => True) := by
  have hfind := leads_findAttachment session.compartmentId (volumeId session.regionKey volume) h
  rw [hb] at hfind
  have hdetach := leads_detach (E := fun _ => True) ha (Cloud.binding_spec hb).2.2 trivial
  have hwait : ControllerLeads (p.withAttachment a.id .detaching) (waitForDetached limits a.id)
      (.ok ()) ((p.withAttachment a.id .detaching).withAttachment a.id .detached) fun _ => True :=
    leads_waitForDetached hstates (Cloud.find?_setAttachmentState ha) rfl hretries trivial trivial
  have htwice : (p.withAttachment a.id .detaching).withAttachment a.id .detached =
      p.withAttachment a.id .detached := by
    simp only [Picture.withAttachment, Cloud.setAttachmentState_twice]
  rw [htwice] at hwait
  refine (leads_openSession hsession).bind ?_
  refine (leads_onController (hfind.mono fun _ _ => trivial) _).bind ?_
  exact (leads_onController hdetach _).bind ((leads_onController hwait _).bind (leads_pure _))

/-! ## Looking -/

/-- What `BlockVolume.isAttached` answers about a volume that an attachment binds, or none. -/
def lookedUp (volumeId : String) : Option VolumeAttachment → Status
  | some _ => { Status.success with attached := true }
  | none => .successWith (AttachmentFault.notFound volumeId).message

variable (node) in
theorem answers_isAttached (hname : options.volumeName? = some name)
    (hsession : p.session = .ok session) (h : p.cloud.Listable limits) :
    Answers p (BlockVolume.isAttached limits options node).answer
      (lookedUp (volumeId session.regionKey name)
        (p.cloud.binding (volumeId session.regionKey name))) p := by
  intro w hw hp
  let id := volumeId session.regionKey name
  have hvolume := (leads_volumeOf_some (p := p) (E := fun _ => True) hname).runs hw hp
  have hopen := (leads_openSession (E := fun _ => True) hsession).runs hvolume.2.1 hvolume.2.2
  have hfind := (leads_onController (leads_findAttachment session.compartmentId id h)
    .attachment).runs hopen.2.1 hopen.2.2
  have hrun : Fallible.runs World.act (BlockVolume.isAttached limits options node) w =
      (.ok (lookedUp id (p.cloud.binding id)), (Fallible.runs World.act (onController .attachment
        (findAttachment limits session.compartmentId id)) (Fallible.runs World.act openSession
          (Fallible.runs World.act (volumeOf options) w).2).2).2) := by
    refine (Fallible.runs_bind_ok (Prod.ext hvolume.1 rfl)).trans ?_
    refine (Fallible.runs_bind_ok (Prod.ext hopen.1 rfl)).trans ?_
    refine (Fallible.runs_bind_ok (Fallible.runs_outcome ..)).trans ?_
    rw [hfind.1]
    cases p.cloud.binding id <;> rfl
  rw [run_answer, hrun]
  exact ⟨rfl, hfind.2⟩

/-! ## What is asked for -/

variable (limits) in
theorem asks_findAttachment {P : String → Prop} (compartmentId volumeId : String)
    (h : P "ListVolumeAttachments") : Asks P (findAttachment limits compartmentId volumeId) := by
  refine Asks.bind ?_ fun found => ?_
  · exact findOnPages_closed (P := Asks P) asks_pure Asks.bind (asks_throw _)
      (fun page => (asks_request (e := .listVolumeAttachments _ _ page) h).wrap _) _ _
  · cases found with
    | some a => exact asks_pure a
    | none => exact asks_throw _

variable (node) in
/-- A `BlockVolume.detach` of a volume that is free does not ask for anything to be undone. -/
theorem calls_detach_free {w : World} (hw : w.Calm) (hsession : w.session = .ok session)
    (h : w.picture.cloud.Listable limits)
    (hb : w.picture.cloud.binding (volumeId session.regionKey volume) = none) :
    ∃ calls, ((BlockVolume.detach limits volume node).answer.run World.act w).2.cloud.calls =
      w.cloud.calls ++ calls ∧ "DetachVolume" ∉ calls := by
  let id := volumeId session.regionKey volume
  let find := findAttachment limits session.compartmentId id
  have hfind : (Fallible.runs Disturbed.control find ⟨w, []⟩).1 = .error (.notFound id) := by
    rcases (leads_findAttachment _ _ h ⟨w, []⟩ hw rfl).arrived with ⟨hx, _⟩ | ⟨hfaulty, _⟩
    · exact hx.trans (by rw [hb, found])
    · exact absurd hfaulty (Disturbed.not_faulty w)
  have hopen : Fallible.runs Disturbed.act openSession ⟨w, []⟩ = (.ok session, ⟨w, []⟩) := by
    rw [openSession, runs_onController]
    show (w.session.mapError _, _) = _
    rw [hsession]
    rfl
  have herror : Fallible.runs Disturbed.act (onController .attachment find) ⟨w, []⟩ =
      (.error (.attachment (.notFound id)), (Fallible.runs Disturbed.control find ⟨w, []⟩).2) := by
    rw [runs_onController, hfind]
    rfl
  -- The search is all there is, for it finds nothing.
  have hrun : Fallible.runs Disturbed.act (BlockVolume.detach limits volume node) ⟨w, []⟩ =
      (.error (.attachment (.notFound id)), (Fallible.runs Disturbed.control find ⟨w, []⟩).2) := by
    refine (Fallible.runs_bind_ok hopen).trans ?_
    exact Fallible.runs_bind_error herror
  obtain ⟨calls, hcalls, hP⟩ := asks_findAttachment (P := (· ≠ "DetachVolume")) limits
    session.compartmentId id (by decide) ⟨w, []⟩
  refine ⟨calls, ?_, fun hmem => hP _ hmem rfl⟩
  rw [run_answer]
  rw [runs_undisturbed] at hrun
  exact (congrArg (fun run => run.2.world.cloud.calls) hrun).trans hcalls

end VolumeDriver.InMemory
