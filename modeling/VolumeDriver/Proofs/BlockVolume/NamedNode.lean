import VolumeDriver.Proofs.BlockVolume.CallOuts
import VolumeDriver.Proofs.Controller.Requests
import VolumeDriver.Proofs.Flow.Events
import VolumeDriver.Proofs.InMemory.Sides
set_option autoImplicit false

/-! # The node that a call-out names

`BlockVolume.detach` is given the name of the node that a volume is to be detached from, and
`BlockVolume.isAttached` that of the node that it may be attached to. The driver for block volumes goes by
the volume alone: it takes the attachment that binds the volume (`Cloud.binding`), whichever instance that
is of. So it heeds the name just where the volume is bound for an instance that the node is. -/

namespace VolumeDriver.InMemory

open ControlPlane Controller

/-! ## What is asked to be undone -/

/-- The attachment that an action asks to be undone. -/
def undone? : Action → Option String
  | .exchange (.detachVolume id) => some id
  | _ => none

/-- The attachments that a flow asks to be undone when it is run in a world: `undone?` of each of its
    events. -/
def undosAsked {α : Type} (m : Flow driverSignature α) (w : World) : List String :=
  (m.events World.act w).filterMap fun e => Sum.elim undone? (fun _ => none) e.action

/-- The action asks for nothing to be undone. -/
def UndoesNothing (action : Action) : Prop :=
  undone? action = none

section Undos

variable {ε α β : Type} {w w' : World}

theorem undosAsked_of_only {m : DriverRun α} (hm : Fallible.Only (ControlAction UndoesNothing) m)
    (w : World) : undosAsked m.run w = [] := by
  refine List.filterMap_eq_nil_iff.2 fun e he => ?_
  have haction := hm.ends (m.run.ends_events World.act w) e he
  obtain ⟨action | action, reply⟩ := e
  · exact haction
  · rfl

/-- In `undosAsked`, what comes after a part that `UndoesNothing` is all that counts. -/
theorem undosAsked_bind_ok {m : DriverRun α} {f : α → DriverRun β} {a : α}
    (hm : Fallible.Only (ControlAction UndoesNothing) m)
    (hrun : Fallible.runs World.act m w = (.ok a, w')) :
    undosAsked (m >>= f).run w = undosAsked (f a).run w' := by
  have hquiet := undosAsked_of_only hm w
  rw [undosAsked] at hquiet
  rw [undosAsked, Fallible.events_bind_ok hrun, List.filterMap_append, hquiet, List.nil_append]
  rfl

theorem undosAsked_bind_error {m : DriverRun α} {f : α → DriverRun β} {fault : DriverFault}
    (hm : Fallible.Only (ControlAction UndoesNothing) m)
    (hrun : Fallible.runs World.act m w = (.error fault, w')) :
    undosAsked (m >>= f).run w = [] := by
  rw [undosAsked, Fallible.events_bind_error hrun]
  exact undosAsked_of_only hm w

/-- In `undosAsked`, what comes before a part that `UndoesNothing` is all that counts. -/
theorem undosAsked_bind {m : DriverRun α} {f : α → DriverRun β}
    (hf : ∀ a, Fallible.Only (ControlAction UndoesNothing) (f a)) (w : World) :
    undosAsked (m >>= f).run w = undosAsked m.run w := by
  rcases hrun : Fallible.runs World.act m w with ⟨fault | a, w'⟩
  · rw [undosAsked, Fallible.events_bind_error hrun]
    rfl
  · have hquiet := undosAsked_of_only (hf a) w'
    rw [undosAsked] at hquiet
    rw [undosAsked, Fallible.events_bind_ok hrun, List.filterMap_append, hquiet, List.append_nil]
    rfl

theorem undosAsked_onController (wrap : ε → DriverFault) (m : Controller.Run ε α) (w : World) :
    undosAsked (onController wrap m).run w =
      (m.run.events World.controlAnswer w).filterMap fun e => undone? e.action := by
  have hevents : (onController wrap m).run.events World.act w =
      (m.run.events World.controlAnswer w).map Event.inLeft := by
    rw [onController, Fallible.events_wrap]
    exact Flow.events_inLeft (T := Host.signature) World.act m.run w
  exact (congrArg (List.filterMap _) hevents).trans List.filterMap_map

theorem undosAsked_detach (wrap : AttachmentFault → DriverFault) (id : String) (w : World) :
    undosAsked (onController wrap (Controller.detach id)).run w = [id] := by
  have hevents : (Controller.detach id).run.events World.controlAnswer w =
      (request (.detachVolume id)).run.events World.controlAnswer w :=
    Fallible.events_wrap _ _ w
  rw [undosAsked_onController, hevents]
  rfl

theorem undosAsked_answer (m : DriverRun Status) (w : World) :
    undosAsked m.answer w = undosAsked m.run w := by
  have hevents : m.answer.events World.act w = m.run.events World.act w :=
    (Flow.events_bind m.run _ w).trans (List.append_nil _)
  rw [undosAsked, hevents]
  rfl

end Undos

/-! ## What is left alone -/

/-- The action looks at the attachment `id`, asks for it to be undone, or does nothing about attachments. -/
def Handles (id : String) : Action → Prop
  | .exchange (.getVolumeAttachment other) | .exchange (.detachVolume other) => other = id
  | .pause _ => True
  | _ => False

section Others

variable {id : String} {b : VolumeAttachment}

theorem Cloud.mem_setAttachmentState {c : Cloud} {state : AttachmentState} (hb : b ∈ c.attachments)
    (hid : b.id ≠ id) : b ∈ (c.setAttachmentState id state).attachments := by
  have hmem : ∀ l : List VolumeAttachment, b ∈ l →
      b ∈ Cloud.updateFirst (Cloud.isAttachment id) ({ · with state }) l := by
    intro l hl
    induction l with
    | nil => cases hl
    | cons a rest ih =>
      rw [Cloud.updateFirst]
      rcases List.mem_cons.1 hl with rfl | hl
      · rw [if_neg (by simpa [Cloud.isAttachment] using hid)]
        exact List.mem_cons_self
      · split
        · exact List.mem_cons_of_mem _ hl
        · exact List.mem_cons_of_mem _ (ih hl)
  exact hmem c.attachments hb

/-- A request that `Handles` one attachment leaves the others as they are. -/
theorem Cloud.mem_respond {c : Cloud} {x : Exchange} (hx : Handles id (.exchange x))
    (hb : b ∈ c.attachments) (hid : b.id ≠ id) : b ∈ (c.respond x).2.attachments := by
  cases x with
  | getVolumeAttachment other =>
    cases hx
    simp only [Cloud.respond, Cloud.getVolumeAttachment]
    split
    · exact hb
    · exact Cloud.mem_setAttachmentState hb hid
    · exact Cloud.mem_setAttachmentState hb hid
  | detachVolume other =>
    cases hx
    simp only [Cloud.respond, Cloud.detachVolume]
    split
    · exact hb
    · split
      · exact Cloud.mem_setAttachmentState hb hid
      · exact hb
  | _ => cases hx

theorem mem_attachments_act {action : driverSignature.Action} {w : World}
    (haction : ControlAction (Handles id) action) (hid : b.id ≠ id) (hb : b ∈ w.cloud.attachments) :
    b ∈ (w.act action).2.cloud.attachments := by
  rcases action with action | action
  · cases action with
    | exchange x =>
      show b ∈ (w.cloud.exchange x).2.attachments
      rcases Cloud.exchange_cases x w.cloud with ⟨fault, hx⟩ | hx
      · rw [hx]
        exact hb
      · rw [hx]
        exact Cloud.mem_respond haction hb hid
    | pause milliseconds => exact hb
    | _ => cases haction
  · cases haction

/-- A flow of which every request `Handles` one attachment leaves the others as they are. -/
theorem mem_attachments_of_only {α : Type} {m : DriverRun α}
    (hm : Fallible.Only (ControlAction (Handles id)) m) (hid : b.id ≠ id) {w : World}
    (hb : b ∈ w.cloud.attachments) :
    b ∈ (Fallible.runs World.act m w).2.cloud.attachments :=
  (Flow.Only.throughout hm (I := fun v : World => b ∈ v.cloud.attachments)
    (fun _ _ haction hv => mem_attachments_act haction hid hv) hb).last

end Others

/-! ## What a detach comes to -/

section Detach

variable {limits : Limits} {session : Session} {options : Options} {volume node : String} {w : World}
  {a b : VolumeAttachment}

/-- What follows in `BlockVolume.detach` when an attachment is found. -/
def undo (limits : Limits) (a : VolumeAttachment) : DriverRun Status := do
  onController .attachment (Controller.detach a.id)
  onController .attachment (waitForDetached limits a.id)
  return .success

theorem detach_eq_undo : BlockVolume.detach limits volume node =
    openSession >>= fun session =>
      onController .attachment (findAttachment limits session.compartmentId
        (volumeId session.regionKey volume)) >>= undo limits :=
  rfl

theorem only_undo (a : VolumeAttachment) :
    Fallible.Only (ControlAction (Handles a.id)) (undo limits a) := by
  have hdetach : Fallible.Only (Handles a.id) (Controller.detach a.id) :=
    only_requestAttachment (x := .detachVolume _) rfl
  have hwait : Fallible.Only (Handles a.id) (waitForDetached limits a.id) :=
    only_waitForDetached rfl fun _ => trivial
  refine (only_onController_action hdetach _).bind fun _ => ?_
  exact (only_onController_action hwait _).bind fun _ => Fallible.only_pure _

theorem undosAsked_undo (a : VolumeAttachment) (w : World) :
    undosAsked (undo limits a).run w = [a.id] := by
  refine (undosAsked_bind (fun _ => ?_) w).trans (undosAsked_detach _ a.id w)
  have hwait : Fallible.Only UndoesNothing (waitForDetached limits a.id) :=
    only_waitForDetached rfl fun _ => rfl
  exact (only_onController_action hwait _).bind fun _ => Fallible.only_pure _

theorem only_openSession_undoesNothing :
    Fallible.Only (ControlAction UndoesNothing) openSession := by
  have hconnect : Fallible.Only UndoesNothing connect :=
    Flow.only_perform (S := signature) rfl
  exact only_onController_action hconnect _

variable (volume node) in
/-- A `BlockVolume.detach` finds the attachment that binds the volume, and goes on with `undo`. -/
theorem detach_finds (hcalm : w.Calm) (hsession : w.session = .ok session)
    (hlist : w.cloud.Listable limits) :
    ∃ w' : World, w'.picture = w.picture ∧
      match w.cloud.binding (volumeId session.regionKey volume) with
      | some a =>
        undosAsked (BlockVolume.detach limits volume node).run w = undosAsked (undo limits a).run w' ∧
          Fallible.runs World.act (BlockVolume.detach limits volume node) w =
            Fallible.runs World.act (undo limits a) w'
      | none =>
        undosAsked (BlockVolume.detach limits volume node).run w = [] ∧
          (Fallible.runs World.act (BlockVolume.detach limits volume node) w).2 = w' := by
  let id := volumeId session.regionKey volume
  have hlist' : w.picture.cloud.Listable limits := ⟨hlist.size, hlist.long, hlist.pages⟩
  obtain ⟨hopen, hcalm₁, hpicture₁⟩ :=
    (leads_openSession (p := w.picture) (E := fun _ => True) hsession).runs hcalm rfl
  obtain ⟨hfind, hcalm₂, hpicture₂⟩ := (leads_onController
    (leads_findAttachment session.compartmentId id hlist') .attachment).runs hcalm₁ hpicture₁
  refine ⟨_, hpicture₂, ?_⟩
  have hbinding : w.picture.cloud.binding id = w.cloud.binding id := rfl
  rw [hbinding] at hfind
  have hquiet : Fallible.Only (ControlAction UndoesNothing)
      (onController .attachment (findAttachment limits session.compartmentId id)) :=
    only_onController_action (only_findAttachment fun _ => rfl) _
  rw [detach_eq_undo, undosAsked_bind_ok only_openSession_undoesNothing (Prod.ext hopen rfl),
    Fallible.runs_bind_ok (Prod.ext hopen rfl)]
  show match w.cloud.binding id with | some a => _ | none => _
  cases hb : w.cloud.binding id with
  | some a =>
    rw [hb] at hfind
    exact ⟨undosAsked_bind_ok hquiet (Prod.ext hfind rfl), Fallible.runs_bind_ok (Prod.ext hfind rfl)⟩
  | none =>
    rw [hb] at hfind
    refine ⟨undosAsked_bind_error hquiet (Prod.ext hfind rfl), ?_⟩
    exact congrArg Prod.snd (Fallible.runs_bind_error (Prod.ext hfind rfl))

variable (node) in
/-- A `BlockVolume.detach` asks for the attachment that binds the volume to be undone, and for no other. -/
theorem undosAsked_blockDetach (hcalm : w.Calm) (hsession : w.session = .ok session)
    (hlist : w.cloud.Listable limits) :
    undosAsked (BlockVolume.detach limits volume node).answer w =
      (w.cloud.binding (volumeId session.regionKey volume)).toList.map VolumeAttachment.id := by
  rw [undosAsked_answer]
  obtain ⟨w', -, hfinds⟩ := detach_finds volume node hcalm hsession hlist
  cases hb : w.cloud.binding (volumeId session.regionKey volume) with
  | some a =>
    rw [hb] at hfinds
    exact hfinds.1.trans (undosAsked_undo a w')
  | none =>
    rw [hb] at hfinds
    exact hfinds.1

variable (node) in
/-- A `BlockVolume.detach` leaves all attachments as they are but the one that binds the volume. -/
theorem mem_attachments_blockDetach (hcalm : w.Calm) (hsession : w.session = .ok session)
    (hlist : w.cloud.Listable limits) (hb : b ∈ w.cloud.attachments)
    (hother : ∀ a, w.cloud.binding (volumeId session.regionKey volume) = some a → b.id ≠ a.id) :
    b ∈ ((BlockVolume.detach limits volume node).answer.run World.act w).2.cloud.attachments := by
  rw [run_answer]
  obtain ⟨w', hpicture, hfinds⟩ := detach_finds volume node hcalm hsession hlist
  have hb' : b ∈ w'.cloud.attachments := by
    have hsame : w'.cloud.attachments = w.cloud.attachments :=
      congrArg (fun p : Picture => p.cloud.attachments) hpicture
    rwa [hsame]
  cases hbinding : w.cloud.binding (volumeId session.regionKey volume) with
  | some a =>
    rw [hbinding] at hfinds
    rw [hfinds.2]
    exact mem_attachments_of_only (only_undo a) (hother a hbinding) hb'
  | none =>
    rw [hbinding] at hfinds
    rw [hfinds.2]
    exact hb'

end Detach

/-! ## Heeding the node -/

section Heed

variable {timing : Timing} {session : Session} {options : Options} {volume node : String} {w : World}

/-- What `resolveNode` finds for the node is this instance, in this world. -/
def ResolvesTo (w : World) (limits : Limits) (session : Session) (node : String)
    (machine : Instance) : Prop :=
  (Fallible.runs World.controlAnswer (resolveNode limits session.scope node) w).1 = .ok machine

/-- A `BlockVolume.detach` heeds the node that it names: it asks for nothing to be undone but attachments to
    the instance that the node `ResolvesTo`, and leaves attachments of the volume to others as they are. -/
def DetachHeeds (timing : Timing) (w : World) (session : Session) (volume node : String) : Prop :=
  let flow := (BlockVolume.driver timing).dispatch (.detach volume node)
  ∀ machine, ResolvesTo w timing.limits session node machine →
    (∀ id ∈ undosAsked flow w, ∃ a ∈ w.cloud.attachments, a.id = id ∧ a.instanceId = machine.id) ∧
    ∀ a ∈ w.cloud.attachments, a.volumeId = volumeId session.regionKey volume →
      a.instanceId ≠ machine.id → a ∈ (flow.run World.act w).2.cloud.attachments

/-- A `BlockVolume.isAttached` heeds the node that it names: it is answered with yes only if the volume has
    a live attachment to the instance that the node `ResolvesTo`. -/
def IsAttachedHeeds (timing : Timing) (w : World) (session : Session) (options : Options)
    (volume node : String) : Prop :=
  let flow := (BlockVolume.driver timing).dispatch (.isAttached options node)
  ∀ machine, ResolvesTo w timing.limits session node machine →
    (flow.run World.act w).1.attached = true →
      ∃ a ∈ w.cloud.attachments, isLiveOf (volumeId session.regionKey volume) a ∧
        a.instanceId = machine.id

theorem detachHeeds_iff (hcalm : w.Calm) (hsession : w.session = .ok session)
    (hlist : w.cloud.Listable timing.limits)
    (hids : (w.cloud.attachments.map VolumeAttachment.id).Nodup) :
    DetachHeeds timing w session volume node ↔
      ∀ machine, ResolvesTo w timing.limits session node machine →
        ∀ a, w.cloud.binding (volumeId session.regionKey volume) = some a →
          a.instanceId = machine.id := by
  have hundos : undosAsked ((BlockVolume.driver timing).dispatch (.detach volume node)) w = _ :=
    undosAsked_blockDetach node hcalm hsession hlist
  refine forall_congr' fun machine => forall_congr' fun _ => ⟨fun h a ha => ?_, fun h => ⟨?_, ?_⟩⟩
  · -- The attachment that is to be undone is the only one with its identifier.
    obtain ⟨b, hb, hid, hmachine⟩ := h.1 a.id (by rw [hundos, ha]; exact List.mem_cons_self)
    rwa [← eq_of_id hids hb (Cloud.binding_spec ha).1 hid]
  · intro id hid
    rw [hundos, List.mem_map] at hid
    obtain ⟨a, ha, rfl⟩ := hid
    rw [Option.mem_toList] at ha
    exact ⟨a, (Cloud.binding_spec ha).1, rfl, h a ha⟩
  · intro b hb _ hother
    refine mem_attachments_blockDetach node hcalm hsession hlist hb fun a ha hid => hother ?_
    rw [eq_of_id hids hb (Cloud.binding_spec ha).1 hid]
    exact h a ha

theorem isAttachedHeeds_iff (hcalm : w.Calm) (hsession : w.session = .ok session)
    (hlist : w.cloud.Listable timing.limits) (hname : options.volumeName? = some volume) :
    IsAttachedHeeds timing w session options volume node ↔
      ∀ machine, ResolvesTo w timing.limits session node machine →
        ∀ a, w.cloud.binding (volumeId session.regionKey volume) = some a →
          ∃ b ∈ w.cloud.attachments, isLiveOf (volumeId session.regionKey volume) b ∧
            b.instanceId = machine.id := by
  have hlist' : w.picture.cloud.Listable timing.limits := ⟨hlist.size, hlist.long, hlist.pages⟩
  have hstatus : (((BlockVolume.driver timing).dispatch (.isAttached options node)).run
      World.act w).1 = lookedUp _ (w.cloud.binding (volumeId session.regionKey volume)) :=
    (answers_isAttached (p := w.picture) node hname hsession hlist' w hcalm rfl).1
  refine forall_congr' fun machine => forall_congr' fun _ => ?_
  rw [hstatus]
  cases w.cloud.binding (volumeId session.regionKey volume) with
  | none => exact ⟨fun _ => nofun, fun _ => nofun⟩
  | some a => exact ⟨fun h b _ => h rfl, fun h _ => h a rfl⟩

/-- **Call-outs for block volumes go by the volume and not by the node that they name.** `DetachHeeds` holds
    just where the attachment that binds the volume is one to the instance that the node is, and
    `IsAttachedHeeds` just where a bound volume has a live attachment to that instance. -/
theorem named_node_heeded_iff (hcalm : w.Calm) (hsession : w.session = .ok session)
    (hlist : w.cloud.Listable timing.limits)
    (hids : (w.cloud.attachments.map VolumeAttachment.id).Nodup)
    (hname : options.volumeName? = some volume) (node : String) :
    (DetachHeeds timing w session volume node ↔
      ∀ machine, ResolvesTo w timing.limits session node machine →
        ∀ a, w.cloud.binding (volumeId session.regionKey volume) = some a →
          a.instanceId = machine.id) ∧
    (IsAttachedHeeds timing w session options volume node ↔
      ∀ machine, ResolvesTo w timing.limits session node machine →
        ∀ a, w.cloud.binding (volumeId session.regionKey volume) = some a →
          ∃ b ∈ w.cloud.attachments, isLiveOf (volumeId session.regionKey volume) b ∧
            b.instanceId = machine.id) :=
  ⟨detachHeeds_iff hcalm hsession hlist hids, isAttachedHeeds_iff hcalm hsession hlist hname⟩

end Heed

/-- A volume that is attached to the second of two nodes. -/
def movedVolumeWorld : World where
  cloud := {
    volumes := ["ocid1.volume.oc1.phx.aaaaaavol"]
    attachments := [⟨"attachment", "ocid1.volume.oc1.phx.aaaaaavol", "ocid1.instance.two", .attached,
      "iscsi", some Cloud.targetAddress, some Cloud.targetPort, some "iqn.2015-12.com.oracleiaas:a"⟩]
    instances := [⟨"ocid1.instance.one", "node-1", .running⟩,
      ⟨"ocid1.instance.two", "node-2", .running⟩] }
  config := some {}

/-- The session that the configuration of `movedVolumeWorld` leads to. -/
def movedVolumeSession : Session :=
  ⟨{}, VnicCache.fileName⟩

/-- The options that name the volume of `movedVolumeWorld`. -/
def movedVolumeOptions : Options :=
  ⟨.ofList [(Options.volumeNameKey, "ocid1.volume.oc1.phx.aaaaaavol")]⟩

/-- The instance that a node `ResolvesTo`, where that can be told by running `resolveNode`. -/
theorem eq_of_resolvesTo {w : World} {limits : Limits} {session : Session} {node : String}
    {machine : Instance} (h : ResolvesTo w limits session node machine) (found : Instance)
    (hrun : (Fallible.runs World.controlAnswer (resolveNode limits session.scope node) w).1.toOption =
      some found) : machine = found := by
  rw [ResolvesTo] at h
  rw [h] at hrun
  exact Option.some.inj hrun

theorem binding_movedVolumeWorld : (movedVolumeWorld.cloud.binding
    (volumeId movedVolumeSession.regionKey "ocid1.volume.oc1.phx.aaaaaavol")).map
      VolumeAttachment.instanceId = some "ocid1.instance.two" := by
  decide +kernel

/-- In `movedVolumeWorld` the node that the volume is attached to is heeded. -/
theorem named_node_heeded_movedVolume :
    DetachHeeds {} movedVolumeWorld movedVolumeSession "ocid1.volume.oc1.phx.aaaaaavol" "node-2" ∧
      IsAttachedHeeds {} movedVolumeWorld movedVolumeSession movedVolumeOptions
        "ocid1.volume.oc1.phx.aaaaaavol" "node-2" := by
  have hbound : ∀ machine, ResolvesTo movedVolumeWorld {} movedVolumeSession "node-2" machine →
      ∀ a, movedVolumeWorld.cloud.binding
        (volumeId movedVolumeSession.regionKey "ocid1.volume.oc1.phx.aaaaaavol") = some a →
          a.instanceId = machine.id := by
    intro machine hmachine a ha
    rw [eq_of_resolvesTo hmachine ⟨"ocid1.instance.two", "node-2", .running⟩ (by decide +kernel)]
    have hbinding := binding_movedVolumeWorld
    rw [ha] at hbinding
    exact Option.some.inj hbinding
  have hsession : movedVolumeWorld.session = .ok movedVolumeSession := rfl
  have hlist : movedVolumeWorld.cloud.Listable ({} : Timing).limits :=
    ⟨by decide, by decide, by decide⟩
  have hname : movedVolumeOptions.volumeName? = some "ocid1.volume.oc1.phx.aaaaaavol" := by
    decide +kernel
  have hheeded :=
    named_node_heeded_iff (by decide) hsession hlist (by decide) hname "node-2"
  refine ⟨hheeded.1.2 hbound, hheeded.2.2 fun machine hmachine a ha => ?_⟩
  exact ⟨a, (Cloud.binding_spec ha).1, Cloud.isLiveOf_of_binding ha, hbound machine hmachine a ha⟩

/-- In `movedVolumeWorld` the other node is not heeded: the volume is detached in its name from the node
    that it is attached to, and said to be attached to it. -/
theorem named_node_ignored_movedVolume :
    ResolvesTo movedVolumeWorld {} movedVolumeSession "node-1"
        ⟨"ocid1.instance.one", "node-1", .running⟩ ∧
      ¬DetachHeeds {} movedVolumeWorld movedVolumeSession "ocid1.volume.oc1.phx.aaaaaavol" "node-1" ∧
      ¬IsAttachedHeeds {} movedVolumeWorld movedVolumeSession movedVolumeOptions
        "ocid1.volume.oc1.phx.aaaaaavol" "node-1" := by
  have hnode : ResolvesTo movedVolumeWorld {} movedVolumeSession "node-1"
      ⟨"ocid1.instance.one", "node-1", .running⟩ :=
    congrArg Prod.fst (Fallible.runs_of_toOption (by decide +kernel))
  refine ⟨hnode, fun h => ?_, fun h => ?_⟩
  · obtain ⟨a, ha, -, hinstance⟩ := (h _ hnode).1 "attachment" (by decide +kernel)
    cases List.mem_singleton.1 ha
    exact absurd hinstance (by decide)
  · obtain ⟨a, ha, -, hinstance⟩ := h _ hnode (by decide +kernel)
    cases List.mem_singleton.1 ha
    exact absurd hinstance (by decide)

end VolumeDriver.InMemory
