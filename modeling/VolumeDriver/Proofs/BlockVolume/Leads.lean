import VolumeDriver.Proofs.InMemory.Binding
import VolumeDriver.Proofs.InMemory.Listing
import VolumeDriver.Controller.Attachment
set_option autoImplicit false

/-! # Where requests about attachments lead

For each flow of the controller side that attaches and detaches volumes: what it leads to
(`ControllerLeads`), by the attachment that binds the volume (`Cloud.binding`). -/

namespace VolumeDriver.InMemory

open ControlPlane Controller

variable {p : Picture} {limits : Limits} {compartmentId instanceId volumeId : String}
  {a : VolumeAttachment}

/-- Whether the listings of attachments can be read to their ends: a page has room for an attachment, and
    there are fewer attachments than `limits.pages`. -/
structure Cloud.Listable (c : Cloud) (limits : Limits) : Prop where
  size : c.pageSize ≠ some 0
  long : c.attachments.length < UInt64.size
  pages : c.attachments.length < limits.pages

/-- Records have no part in `Cloud.Sound`. -/
theorem Cloud.Sound.unrecorded {c : Cloud} (h : c.Sound) : c.unrecorded.Sound :=
  ⟨h.ids, h.fresh, h.unscripted⟩

/-! ## Finding -/

/-- What `findAttachment` comes to, by the attachment that binds the volume. -/
def found (volumeId : String) : Option VolumeAttachment → Except AttachmentFault VolumeAttachment
  | some a => .ok a
  | none => .error (.notFound volumeId)

variable (compartmentId volumeId) in
theorem leads_findAttachment (h : p.cloud.Listable limits) :
    ControllerLeads p (findAttachment limits compartmentId volumeId)
      (found volumeId (p.cloud.binding volumeId)) p (· = p) := by
  let items := p.cloud.attachments.filter fun a => a.volumeId = volumeId
  have hshort : items.length ≤ p.cloud.attachments.length := List.length_filter_le _ _
  have hfirst : items.find? (fun a => a.state.isLive) = p.cloud.binding volumeId := by
    rw [List.find?_filter, Cloud.binding]
    congr 1
    funext a
    simp [isLiveOf, Bool.decide_and]
  have hlist : ∀ page, ControllerLeads p
      (requestAttachment (.listVolumeAttachments compartmentId volumeId page))
      (.ok (p.cloud.paginate items page)) p (· = p) :=
    fun page => (leads_request (E := (· = p)) (.listVolumeAttachments _ _ page) rfl).wrap _
  have hsearch := leads_findOnPages (fun a => a.state.isLive)
    (throw (.controlPlane (.endless "ListVolumeAttachments" limits.pages)))
    hlist h.size (Nat.lt_of_le_of_lt hshort h.long) (Nat.lt_of_le_of_lt hshort h.pages)
  rw [hfirst] at hsearch
  refine hsearch.bind ?_
  cases p.cloud.binding volumeId with
  | some a => exact leads_pure a
  | none => exact leads_throw _

/-! ## Attaching -/

/-- What `attach` goes on with after a conflict. -/
def checkOwner (limits : Limits) (compartmentId instanceId volumeId : String) (fault : Fault) :
    Run AttachmentFault VolumeAttachment := do
  match ← (findAttachment limits compartmentId volumeId).outcome with
  | .ok existing =>
    if existing.instanceId = instanceId then return existing
    else throw (.attachedElsewhere volumeId existing.instanceId)
  | .error (.notFound _) => throw (.controlPlane fault)
  | .error fault => throw fault

/-- What `attach` comes to that finds the volume bound by an attachment. -/
def owned (instanceId volumeId : String) (a : VolumeAttachment) :
    Except AttachmentFault VolumeAttachment :=
  if a.instanceId = instanceId then .ok a
  else .error (.attachedElsewhere volumeId a.instanceId)

theorem leads_owned (E : Picture → Prop) :
    ControllerLeads p
      (if a.instanceId = instanceId then pure a
        else throw (.attachedElsewhere volumeId a.instanceId) : Run AttachmentFault VolumeAttachment)
      (owned instanceId volumeId a) p E := by
  rw [owned]
  split
  · exact leads_pure a
  · exact leads_throw _

theorem leads_checkOwner_bound (h : p.cloud.Listable limits) (ha : p.cloud.binding volumeId = some a)
    (fault : Fault) :
    ControllerLeads p (checkOwner limits compartmentId instanceId volumeId fault)
      (owned instanceId volumeId a) p (· = p) := by
  refine (leads_findAttachment _ _ h).bind_outcome ?_ ?_
  · rw [ha]
    exact leads_owned _
  · rintro fault' q rfl
    refine .inr ?_
    cases fault' with
    | notFound _ => exact ⟨_, q, leads_throw _, rfl⟩
    | _ => exact ⟨_, q, leads_throw _, rfl⟩

theorem leads_checkOwner_free (h : p.cloud.Listable limits) (ha : p.cloud.binding volumeId = none)
    (fault : Fault) :
    ControllerLeads p (checkOwner limits compartmentId instanceId volumeId fault)
      (.error (.controlPlane fault)) p (· = p) := by
  refine (leads_findAttachment _ _ h).bind_outcome ?_ ?_
  · rw [ha]
    exact leads_throw _
  · rintro fault' q rfl
    refine .inr ?_
    cases fault' with
    | notFound _ => exact ⟨_, q, leads_throw _, rfl⟩
    | _ => exact ⟨_, q, leads_throw _, rfl⟩

/-- What `attach` does with the answer to its request. -/
def takeAnswer (limits : Limits) (compartmentId instanceId volumeId : String) :
    Except Fault VolumeAttachment → Run AttachmentFault VolumeAttachment
  | .ok attachment => pure attachment
  | .error fault =>
    if fault.isConflict then checkOwner limits compartmentId instanceId volumeId fault
    else throw (.controlPlane fault)

theorem attach_eq : attach limits compartmentId instanceId volumeId =
    (request (.attachVolume instanceId volumeId)).outcome >>=
      takeAnswer limits compartmentId instanceId volumeId := by
  refine congrArg ((request (.attachVolume instanceId volumeId)).outcome >>= ·) (funext fun answer => ?_)
  cases answer <;> rfl

theorem leads_takeAnswer_conflict {r : Except AttachmentFault VolumeAttachment} {fault : Fault}
    (hconflict : fault.isConflict)
    (h : ControllerLeads p (checkOwner limits compartmentId instanceId volumeId fault) r p (· = p)) :
    ControllerLeads p (takeAnswer limits compartmentId instanceId volumeId (.error fault)) r p
      (· = p) := by
  rw [takeAnswer, if_pos hconflict]
  exact h

theorem leads_takeAnswer_other {fault : Fault} (hconflict : ¬fault.isConflict) :
    ControllerLeads p (takeAnswer limits compartmentId instanceId volumeId (.error fault))
      (.error (.controlPlane fault)) p (· = p) := by
  rw [takeAnswer, if_neg hconflict]
  exact leads_throw _

variable (compartmentId instanceId) in
/-- An `attach` of a volume that is bound ends as its `owned` decides, or in an error. -/
theorem leads_attach_bound (h : p.cloud.Listable limits) (hknown : volumeId ∈ p.cloud.volumes)
    (ha : p.cloud.binding volumeId = some a) :
    ControllerLeads p (attach limits compartmentId instanceId volumeId)
      (owned instanceId volumeId a) p (· = p) := by
  have hrespond : p.cloud.respond (.attachVolume instanceId volumeId) = (_, p.cloud) :=
    Cloud.respond_attachVolume_bound hknown ha
  have hask := leads_answered (E := (· = p)) hrespond rfl
  rw [attach_eq]
  refine hask.bind_outcome (leads_checkOwner_bound h ha _) ?_
  rintro fault q rfl
  by_cases hconflict : fault.isConflict
  · exact .inl (leads_takeAnswer_conflict hconflict (leads_checkOwner_bound h ha fault))
  · exact .inr ⟨_, q, leads_takeAnswer_other hconflict, rfl⟩

variable (compartmentId instanceId) in
/-- An `attach` of a volume that is free leads to `Cloud.newAttachment` if the volume is known. After a
    fault there is none to be found. -/
theorem leads_attach_free (h : p.cloud.Listable limits) (ha : p.cloud.binding volumeId = none) :
    ControllerLeads p (attach limits compartmentId instanceId volumeId)
      (if volumeId ∈ p.cloud.volumes then .ok (p.cloud.newAttachment instanceId volumeId)
        else .error (.controlPlane (Cloud.notFound "AttachVolume" volumeId)))
      (p.after (.attachVolume instanceId volumeId)) (· = p) := by
  rw [attach_eq]
  refine (leads_request (E := (· = p)) (.attachVolume instanceId volumeId) rfl).bind_outcome ?_ ?_
  · by_cases hknown : volumeId ∈ p.cloud.volumes
    · rw [if_pos hknown, Cloud.respond_attachVolume_free hknown ha]
      exact leads_pure _
    · rw [if_neg hknown, Cloud.respond_attachVolume_unknown hknown]
      exact leads_throw _
  · rintro fault q rfl
    by_cases hconflict : fault.isConflict
    · exact .inr ⟨_, q, leads_takeAnswer_conflict hconflict (leads_checkOwner_free h ha fault), rfl⟩
    · exact .inr ⟨_, q, leads_takeAnswer_other hconflict, rfl⟩

/-! ## Waiting -/

/-- The picture in which the attachment with this `id` is in a `state`. -/
def Picture.withAttachment (p : Picture) (id : String) (state : AttachmentState) : Picture :=
  { p with cloud := p.cloud.setAttachmentState id state }

/-- The number of looks it takes `waitForAttached` to see a live attachment in place. -/
def looksFor : AttachmentState → Nat
  | .attached => 1
  | _ => 2

theorem leads_getVolumeAttachment {id : String} {E : Picture → Prop}
    (h : p.cloud.attachmentStates.Drained)
    (ha : p.cloud.attachments.find? (Cloud.isAttachment id) = some a) (hE : E p) :
    ControllerLeads p (requestAttachment (.getVolumeAttachment id)) (.ok a)
      (p.withAttachment id (Cloud.nextAttachmentState a.state)) E :=
  (leads_answered (Cloud.respond_getVolumeAttachment h ha) hE).wrap _

/-- One look of `waitForAttached`. -/
def lookForAttached (id : String) : Run AttachmentFault (Option VolumeAttachment) := do
  let attachment : VolumeAttachment ← requestAttachment (.getVolumeAttachment id)
  match attachment.state with
  | .attaching => return none
  | .attached => return some attachment
  | state => throw (.unexpectedState state "attach")

theorem waitForAttached_eq (id : String) : waitForAttached limits id =
    pollTimes limits.poll.interval (.retriesExceeded limits.poll.retries "attaching")
      (lookForAttached id) limits.poll.retries :=
  rfl

section Looks

variable {id : String} {E : Picture → Prop} (h : p.cloud.attachmentStates.Drained)
  (ha : p.cloud.attachments.find? (Cloud.isAttachment id) = some a)

include h ha

theorem leads_lookForAttached_attached (hstate : a.state = .attached) (hE : E p) :
    ControllerLeads p (lookForAttached id) (.ok (some a)) p E := by
  have hlook := leads_getVolumeAttachment h ha hE
  have hsame : p.withAttachment id (Cloud.nextAttachmentState a.state) = p := by
    rw [Picture.withAttachment, Cloud.setAttachmentState_of_eq ha (by rw [hstate]; rfl)]
  rw [hsame] at hlook
  refine hlook.bind ?_
  rw [hstate]
  exact leads_pure _

theorem leads_lookForAttached_attaching (hstate : a.state = .attaching) (hE : E p) :
    ControllerLeads p (lookForAttached id) (.ok none) (p.withAttachment id .attached) E := by
  have hlook := leads_getVolumeAttachment h ha hE
  rw [hstate] at hlook
  refine hlook.bind ?_
  rw [hstate]
  exact leads_pure _

end Looks

/-- A `waitForAttached` ends with a live attachment in place, if it may look as often as `looksFor` says. -/
theorem leads_waitForAttached {id : String} {E : Picture → Prop}
    (h : p.cloud.attachmentStates.Drained)
    (ha : p.cloud.attachments.find? (Cloud.isAttachment id) = some a) (hlive : a.state.isLive)
    (hretries : looksFor a.state ≤ limits.poll.retries)
    (hE : E p) (hE' : E (p.withAttachment id .attached)) :
    ControllerLeads p (waitForAttached limits id) (.ok { a with state := .attached })
      (p.withAttachment id .attached) E := by
  rw [waitForAttached_eq]
  cases hstate : a.state with
  | attached =>
    rw [hstate] at hretries
    have hsame : p.withAttachment id .attached = p := by
      rw [Picture.withAttachment, Cloud.setAttachmentState_of_eq ha hstate]
    have ha' : { a with state := .attached } = a := by rw [← hstate]
    rw [hsame, ha']
    exact leads_pollTimes_first hretries (leads_lookForAttached_attached h ha hstate hE)
  | attaching =>
    -- The first look brings the attachment into place, the second one sees it there.
    rw [hstate] at hretries
    have hplace := leads_lookForAttached_attached (p := p.withAttachment id .attached) h
      (Cloud.find?_setAttachmentState ha) rfl hE'
    exact leads_pollTimes_second hretries (leads_lookForAttached_attaching h ha hstate hE) hplace
  | _ =>
    rw [hstate] at hlive
    cases hlive

/-- A `waitForAttached` that may not look as often as `looksFor` says is in vain. -/
theorem leads_waitForAttached_short {id : String} (h : p.cloud.attachmentStates.Drained)
    (ha : p.cloud.attachments.find? (Cloud.isAttachment id) = some a) (hlive : a.state.isLive)
    (hretries : limits.poll.retries < looksFor a.state) :
    ∃ fault p', ControllerLeads p (waitForAttached limits id) (.error fault) p' (fun _ => True) := by
  rw [waitForAttached_eq]
  cases hstate : a.state with
  | attached =>
    rw [hstate] at hretries
    rw [Nat.lt_one_iff.1 hretries]
    exact ⟨_, p, leads_throw _⟩
  | attaching =>
    rw [hstate] at hretries
    exact ⟨_, leads_pollTimes_short hretries
      (leads_lookForAttached_attaching h ha hstate trivial)⟩
  | _ =>
    rw [hstate] at hlive
    cases hlive

/-! ## Detaching -/

/-- One look of `waitForDetached`. -/
def lookForDetached (id : String) : Run AttachmentFault (Option Unit) := do
  let attachment : VolumeAttachment ← requestAttachment (.getVolumeAttachment id)
  match attachment.state with
  | .detaching => return none
  | .detached => return some ()
  | state => throw (.unexpectedState state "detach")

theorem waitForDetached_eq (id : String) : waitForDetached limits id =
    pollTimes limits.poll.interval (.retriesExceeded limits.poll.retries "detaching")
      (lookForDetached id) limits.poll.retries :=
  rfl

theorem leads_detach {id : String} {E : Picture → Prop}
    (ha : p.cloud.attachments.find? (Cloud.isAttachment id) = some a) (hlive : a.state.isLive)
    (hE : E p) :
    ControllerLeads p (detach id) (.ok ()) (p.withAttachment id .detaching) E :=
  (leads_answered (Cloud.respond_detachVolume ha hlive) hE).wrap _

/-- A `waitForDetached` ends with the attachment undone, if it is being undone and two looks are allowed. -/
theorem leads_waitForDetached {id : String} {E : Picture → Prop}
    (h : p.cloud.attachmentStates.Drained)
    (ha : p.cloud.attachments.find? (Cloud.isAttachment id) = some a) (hstate : a.state = .detaching)
    (hretries : 2 ≤ limits.poll.retries)
    (hE : E p) (hE' : E (p.withAttachment id .detached)) :
    ControllerLeads p (waitForDetached limits id) (.ok ()) (p.withAttachment id .detached) E := by
  rw [waitForDetached_eq]
  have hfirst : ControllerLeads p (lookForDetached id) (.ok none) (p.withAttachment id .detached) E := by
    have hlook := leads_getVolumeAttachment h ha hE
    rw [hstate] at hlook
    refine hlook.bind ?_
    rw [hstate]
    exact leads_pure _
  have ha' : (p.withAttachment id .detached).cloud.attachments.find? (Cloud.isAttachment id) =
      some { a with state := .detached } :=
    Cloud.find?_setAttachmentState ha
  have hsecond : ControllerLeads (p.withAttachment id .detached) (lookForDetached id) (.ok (some ()))
      (p.withAttachment id .detached) E := by
    have hlook := leads_getVolumeAttachment (p := p.withAttachment id .detached) h ha' hE'
    have hsame : (p.withAttachment id .detached).withAttachment id .detached =
        p.withAttachment id .detached := by
      rw [Picture.withAttachment, Picture.withAttachment, Cloud.setAttachmentState_twice]
    exact (hsame ▸ hlook).bind (leads_pure _)
  exact leads_pollTimes_second hretries hfirst hsecond

end VolumeDriver.InMemory
