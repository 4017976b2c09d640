import VolumeDriver.Proofs.Flow.Events
import VolumeDriver.Proofs.InMemory.Sides
set_option autoImplicit false

/-! # Call-outs keep to their side

The controller has a configuration and a control plane, a worker has neither. So what is run on workers may
not depend on them, and does not: a call-out is either about the host (`Verb.isForHost`), and then the rest
of the world has no part in it, or about the control plane, and then the host has none. Arguments that are
`Refused` are answered without either. -/

namespace VolumeDriver

/-- The verb is for the host that a volume is used on, and not for the control plane. -/
def Verb.isForHost : Verb → Bool
  | .mountDevice | .unmountDevice | .waitForAttach | .mount | .unmount | .getVolumeName => true
  | .init | .attach | .detach | .isAttached => false

namespace InMemory

/-- The action is one of the host side. -/
def IsHost : driverSignature.Action → Prop
  | .inl _ => False
  | .inr _ => True

/-! ## Who acts on which side -/

section Host

variable {α : Type}

theorem only_onHost (m : Host.Run α) : Fallible.Only IsHost (onHost m) :=
  Fallible.Only.wrap (m := .ofFlow m.run.inRight) (Flow.only_inRight (fun _ => trivial) m.run) _

theorem BlockVolume.only_mount (wait : DeviceWait) (directory device : String) (options : Options) :
    Fallible.Only IsHost (BlockVolume.mount wait directory device options) := by
  refine (only_onHost _).bind fun outcome => ?_
  cases outcome <;> exact Fallible.only_pure _

theorem BlockVolume.only_unmount (directory : String) :
    Fallible.Only IsHost (BlockVolume.unmount directory) := by
  refine (only_onHost _).bind fun outcome => ?_
  cases outcome <;> exact Fallible.only_pure _

theorem FileStorage.only_mount (directory device : String) (options : Options) :
    Fallible.Only IsHost (FileStorage.mount directory device options) := by
  refine (only_onHost _).bind fun outcome => ?_
  cases outcome <;> exact Fallible.only_pure _

theorem FileStorage.only_unmount (directory : String) :
    Fallible.Only IsHost (FileStorage.unmount directory) :=
  (only_onHost _).bind fun _ => Fallible.only_pure _

/-- In `Route.select` the driver is chosen by the call-out, or by what is mounted. -/
theorem only_select (route : Route) (callOut : CallOut) :
    Fallible.Only IsHost (route.select callOut) := by
  cases route with
  | fixed family => exact Fallible.only_pure family
  | claim =>
    by_cases hunmount : callOut.verb = .unmountDevice
    · cases callOut with
      | unmountDevice directory =>
        refine (only_onHost _).bind fun found => ?_
        cases found <;> exact Fallible.only_pure _
      | _ => cases hunmount
    · rw [select_claim hunmount]
      exact Fallible.only_ofExcept _

/-- Whatever driver answers a verb for the host does not turn to the control plane. -/
theorem only_dispatch_host (timing : Timing) (family : StorageFamily) {callOut : CallOut}
    (h : callOut.verb.isForHost) : ((driverFor timing family).dispatch callOut).Only IsHost := by
  cases callOut with
  | mountDevice directory device options =>
    cases family with
    | block => exact only_answer (BlockVolume.only_mount timing.deviceWait directory device options)
    | fileStorage => exact only_answer (FileStorage.only_mount directory device options)
  | unmountDevice directory =>
    cases family with
    | block => exact only_answer (BlockVolume.only_unmount directory)
    | fileStorage => exact only_answer (FileStorage.only_unmount directory)
  | waitForAttach device options => cases family <;> trivial
  | getVolumeName options => cases family <;> trivial
  | mount directory options => cases family <;> trivial
  | unmount directory => cases family <;> trivial
  | _ => cases h

end Host

/-- The driver for a call-out that is not an unmount is chosen by `Route.select` without an action. -/
theorem only_select_control {P : driverSignature.Action → Prop} (route : Route) {callOut : CallOut}
    (h : callOut.verb ≠ .unmountDevice) : Fallible.Only P (route.select callOut) := by
  cases route with
  | fixed family => exact Fallible.only_pure family
  | claim =>
    rw [select_claim h]
    exact Fallible.only_ofExcept _

theorem only_routeAnswer {P : driverSignature.Action → Prop} {timing : Timing} {route : Route}
    {callOut : CallOut} (hselect : Fallible.Only P (route.select callOut))
    (hdispatch : ∀ family, ((driverFor timing family).dispatch callOut).Only P) :
    (route.answer timing callOut).Only P := by
  refine Flow.Only.bind (m := (route.select callOut).run) hselect fun chosen => ?_
  cases chosen with
  | ok family => exact hdispatch family
  | error fault => trivial

/-- What the answer to a call-out that is read asks for, `execute` asks for. -/
theorem only_execute {P : driverSignature.Action → Prop} {timing : Timing}
    {table : List (String × Route)} {args : List String} {callOut : CallOut}
    (hparse : CallOut.parse args = .ok callOut)
    (hanswer : ∀ route : Route, (route.answer timing callOut).Only P) :
    (execute timing table args).Only P := by
  rcases execute_cases timing table args with ⟨status, h⟩ | ⟨route, read, -, hread, h⟩
  · rw [h]
    trivial
  · rw [hparse] at hread
    cases hread
    rw [h]
    exact hanswer route

/-! ## What the other side does not see -/

theorem act_host {action : driverSignature.Action} (h : IsHost action) {v w : World}
    (hnode : v.node = w.node) : (v.act action).1 = (w.act action).1 ∧
      (v.act action).2.node = (w.act action).2.node := by
  rcases action with action | action
  · cases h
  · cases action with
    | operate o =>
      show (v.node.operate o).1 = (w.node.operate o).1 ∧ (v.node.operate o).2 = (w.node.operate o).2
      rw [hnode]
      exact ⟨rfl, rfl⟩
    | pause milliseconds => exact ⟨rfl, hnode⟩

/-- A flow of the host side changes the host and moves the clock, and nothing else. -/
theorem frame_of_only {α : Type} {m : Flow driverSignature α} (hm : m.Only IsHost) (w : World) :
    ∃ node clock, (m.run World.act w).2 = { w with node, clock } := by
  have hstep : ∀ action v, IsHost action → (∃ node clock, v = { w with node, clock }) →
      ∃ node clock, (World.act action v).2 = { w with node, clock } := by
    rintro (action | action) _ h ⟨node, clock, rfl⟩
    · cases h
    · cases action with
      | operate o => exact ⟨_, _, rfl⟩
      | pause milliseconds => exact ⟨_, _, rfl⟩
  exact (hm.throughout (I := fun v => ∃ node clock, v = { w with node, clock }) hstep
    ⟨w.node, w.clock, rfl⟩).last

/-! ## What is refused -/

/-- Arguments are refused: the program is not called by that name, they are no call-out, no driver claims
    the volume, or none is named where one is needed. -/
inductive Refused (table : List (String × Route)) (args : List String) : Prop
  | program {fault : DriverFault} (lookup : Route.lookup table (args.headD "") = .error fault)
  | arguments {fault : CallOut.Fault} (parse : CallOut.parse args = .error fault)
  | unclaimed {callOut : CallOut} {fault : DriverFault}
      (lookup : Route.lookup table (args.headD "") = .ok .claim)
      (parse : CallOut.parse args = .ok callOut) (claimed : claimedBy callOut = .error fault)
  | nameless {callOut : CallOut} (parse : CallOut.parse args = .ok callOut)
      (verb : callOut.verb = .attach ∨ callOut.verb = .isAttached)
      (name : callOut.volumeName? = none)

theorem dispatch_nameless (timing : Timing) (family : StorageFamily) {callOut : CallOut}
    (hverb : callOut.verb = .attach ∨ callOut.verb = .isAttached)
    (hname : callOut.volumeName? = none) :
    (driverFor timing family).dispatch callOut =
      .done (.failure DriverFault.missingVolumeName.message) := by
  have hvolume : ∀ options : Options, options.volumeName? = none →
      volumeOf options = throw .missingVolumeName := by
    intro options h
    rw [volumeOf, h]
  cases callOut with
  | attach options node =>
    cases family with
    | block =>
      show (BlockVolume.attach timing.limits options node).answer = _
      rw [BlockVolume.attach, hvolume options hname]
      rfl
    | fileStorage =>
      show (FileStorage.attach timing.limits options node).answer = _
      rw [FileStorage.attach, hvolume options hname]
      rfl
  | isAttached options node =>
    cases family with
    | block =>
      show (BlockVolume.isAttached timing.limits options node).answer = _
      rw [BlockVolume.isAttached, hvolume options hname]
      rfl
    | fileStorage =>
      show (FileStorage.isAttached timing.limits options node).answer = _
      rw [FileStorage.isAttached, hvolume options hname]
      rfl
  | _ => rcases hverb with hverb | hverb <;> cases hverb

theorem select_nameless (route : Route) {callOut : CallOut}
    (hverb : callOut.verb = .attach ∨ callOut.verb = .isAttached)
    (hname : callOut.volumeName? = none) : ∃ family, route.select callOut = pure family := by
  cases route with
  | fixed family => exact ⟨family, rfl⟩
  | claim =>
    have hunmount : callOut.verb ≠ .unmountDevice := by
      intro h
      rw [h] at hverb
      rcases hverb with hverb | hverb <;> cases hverb
    rw [select_claim hunmount, claimedBy, hname]
    exact ⟨.block, rfl⟩

/-- What is `Refused` is answered at once. -/
theorem Refused.execute_eq {table : List (String × Route)} {args : List String}
    (h : Refused table args) (timing : Timing) :
    ∃ message, execute timing table args = .done (.failure message) := by
  cases hlookup : Route.lookup table (args.headD "") with
  | error fault => exact ⟨_, execute_of_lookup_error hlookup⟩
  | ok route =>
    cases h with
    | program lookup =>
      rw [hlookup] at lookup
      cases lookup
    | arguments parse => exact ⟨_, execute_of_parse_error hlookup parse⟩
    | unclaimed lookup parse claimed =>
      exact ⟨_, (execute_of_parse lookup parse).trans (answer_of_unclaimed claimed)⟩
    | nameless parse verb name =>
      obtain ⟨family, hfamily⟩ := select_nameless route verb name
      refine ⟨DriverFault.missingVolumeName.message, ?_⟩
      rw [execute_of_parse hlookup parse, Route.answer, hfamily]
      exact dispatch_nameless timing family verb name

/-! ## Both sides -/

/-- **Call-outs keep to their side.** What a verb for the host (`Verb.isForHost`) answers, and all that it
    does to the host on the way, is the same in any two worlds with the same host, and nothing but the host
    and the clock is changed by it. Any other verb leaves the host alone. What is `Refused` is answered with
    a failure, without an action on either side. -/
theorem callOuts_keep_to_their_side (timing : Timing) (table : List (String × Route))
    (args : List String) :
    let flow := execute timing table args
    (∀ callOut, CallOut.parse args = .ok callOut → callOut.verb.isForHost = true → ∀ v w : World,
      v.node = w.node →
        (flow.run World.act v).1 = (flow.run World.act w).1 ∧
        flow.events World.act v = flow.events World.act w ∧
        (flow.run World.act v).2.node = (flow.run World.act w).2.node ∧
        (∀ e ∈ flow.events World.act w, IsHost e.action) ∧
        ∃ node clock, (flow.run World.act w).2 = { w with node, clock }) ∧
    (∀ callOut, CallOut.parse args = .ok callOut → callOut.verb.isForHost = false → ∀ w : World,
      (∀ e ∈ flow.events World.act w, IsControl e.action) ∧
      (flow.run World.act w).2.node = w.node) ∧
    (Refused table args → ∃ message, ∀ w : World,
      flow.run World.act w = (.failure message, w) ∧ flow.events World.act w = []) := by
  intro flow
  refine ⟨fun callOut hparse hverb v w hnode => ?_, fun callOut hparse hverb w => ?_, fun h => ?_⟩
  · have honly : flow.Only IsHost := only_execute hparse fun route =>
      only_routeAnswer (only_select route callOut) fun family =>
        only_dispatch_host timing family hverb
    obtain ⟨hstatus, hevents, hnode'⟩ := honly.agree (R := fun v w : World => v.node = w.node)
      (fun _ _ _ haction h => act_host haction h) hnode
    exact ⟨hstatus, hevents, hnode', honly.ends (flow.ends_events World.act w), frame_of_only honly w⟩
  · have hmount : callOut.verb ≠ .mountDevice := by
      intro h
      rw [h] at hverb
      cases hverb
    have hunmount : callOut.verb ≠ .unmountDevice := by
      intro h
      rw [h] at hverb
      cases hverb
    have honly : flow.Only IsControl := only_execute hparse fun route =>
      only_routeAnswer (only_select_control route hunmount) fun family =>
        only_dispatch timing family hmount hunmount
    exact ⟨honly.ends (flow.ends_events World.act w), node_of_only honly w⟩
  · obtain ⟨message, hdone⟩ := h.execute_eq timing
    refine ⟨message, fun w => ?_⟩
    have hflow : flow = .done (.failure message) := hdone
    rw [hflow]
    exact ⟨rfl, rfl⟩

/-- A world with a configuration and a control plane. -/
def controllerWorld : World where
  cloud := { pageSize := some 1, volumes := ["ocid1.volume.a"] }
  config := some {}
  clock := 1000

theorem parse_of_verb (args : List String) (verb : Verb)
    (h : (CallOut.parse args).toOption.map CallOut.verb = some verb) :
    ∃ callOut, CallOut.parse args = .ok callOut ∧ callOut.verb = verb := by
  cases hparse : CallOut.parse args with
  | error fault =>
    rw [hparse] at h
    cases h
  | ok callOut =>
    rw [hparse] at h
    exact ⟨callOut, rfl, Option.some.inj h⟩

/-- In `controllerWorld`, an unmount answers the same as on a worker, a detach leaves the controller's host
    alone, and a volume of an unknown kind is refused. -/
theorem callOuts_keep_to_their_side_controllerWorld :
    let unmount := execute {} Route.standard ["oci", "unmountdevice", "/mnt/a"]
    let detach := execute {} Route.standard ["oci", "detach", "ocid1.volume.a", "node-1"]
    let stray := execute {} Route.standard ["oci", "detach", "ocid1.bucket.a", "node-1"]
    (unmount.run World.act {}).1 = (unmount.run World.act controllerWorld).1 ∧
      (detach.run World.act controllerWorld).2.node = {} ∧
      ∃ message, stray.run World.act controllerWorld = (.failure message, controllerWorld) := by
  obtain ⟨unmount, hunmount, hforHost⟩ :=
    parse_of_verb ["oci", "unmountdevice", "/mnt/a"] .unmountDevice (by decide +kernel)
  obtain ⟨detach, hdetach, hforControl⟩ :=
    parse_of_verb ["oci", "detach", "ocid1.volume.a", "node-1"] .detach (by decide +kernel)
  have hstray : CallOut.parse ["oci", "detach", "ocid1.bucket.a", "node-1"] =
      .ok (.detach "ocid1.bucket.a" "node-1") := rfl
  have hrefused : Refused Route.standard ["oci", "detach", "ocid1.bucket.a", "node-1"] :=
    .unclaimed rfl hstray rfl
  obtain ⟨message, hmessage⟩ := (callOuts_keep_to_their_side {} _ _).2.2 hrefused
  refine ⟨?_, ?_, message, (hmessage controllerWorld).1⟩
  · exact ((callOuts_keep_to_their_side {} Route.standard _).1 unmount hunmount
      (by rw [hforHost]; rfl) {} controllerWorld rfl).1
  · exact ((callOuts_keep_to_their_side {} Route.standard _).2.1 detach hdetach
      (by rw [hforControl]; rfl) controllerWorld).2

end InMemory

end VolumeDriver
