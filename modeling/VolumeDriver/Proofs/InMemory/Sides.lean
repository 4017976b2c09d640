import VolumeDriver.Proofs.Driver.Route
import VolumeDriver.Proofs.InMemory.Operations
set_option autoImplicit false

/-! # The two sides of a driver in memory

What a driver does on the controller side leaves the host as it is, and what it does on the host side
leaves all but the host and the clock as it is. Only the answers to `mountdevice` and `unmountdevice` have
anything to do on the host side. -/

namespace VolumeDriver.InMemory

open Host

/-! ## The host side -/

section

variable {α : Type} {I : World → Prop}

/-- A flow of the host side moves the clock and changes the host. -/
theorem host_frame (m : Flow Host.signature α) (w : World) :
    ∃ node clock, (m.run World.hostAnswer w).2 = { w with node, clock } := by
  induction m generalizing w with
  | done a => exact ⟨w.node, w.clock, rfl⟩
  | ask action next ih =>
    cases action with
    | operate o => exact ih _ _
    | pause milliseconds => exact ih _ _

/-- On a host that is `Calm`, nothing that is done on the host side makes anything fail. -/
theorem calm_host (m : Flow Host.signature α) {w : World} (h : w.node.Calm) :
    (m.run World.hostAnswer w).2.node.Calm := by
  induction m generalizing w with
  | done a => exact h
  | ask action next ih =>
    cases action with
    | operate o => exact ih _ (h.operate o)
    | pause milliseconds => exact ih _ h

theorem calm_of_runs {m : Host.Run α} {result : Except Host.Fault α} {w w' : World}
    (h : w.node.Calm) (hrun : Fallible.runs World.hostAnswer m w = (result, w')) :
    w'.node.Calm := by
  have hcalm := calm_host m.run h
  rwa [show (m.run.run World.hostAnswer w).2 = w' from congrArg Prod.snd hrun] at hcalm

theorem runs_onHost (m : Host.Run α) (w : World) :
    Fallible.runs World.act (onHost m) w =
      ((Fallible.runs World.hostAnswer m w).1.mapError .host,
        (Fallible.runs World.hostAnswer m w).2) := by
  have hside := Flow.run_inRight (S := Controller.signature) World.act m.run w
  rw [onHost, Fallible.runs_wrap]
  exact congrArg (fun run : Except Host.Fault α × World => (run.1.mapError DriverFault.host, run.2)) hside

theorem throughout_onHost {m : Host.Run α} {w : World}
    (h : Fallible.Throughout World.hostAnswer I m w) :
    Fallible.Throughout World.act I (onHost m) w :=
  Fallible.Throughout.wrap (m := .ofFlow m.run.inRight)
    ((Flow.throughout_inRight World.act).2 h) _

theorem throughout_operate {o : Operation} {w : World} (h : I w)
    (hafter : I { w with node := (w.node.operate o).2 }) :
    Fallible.Throughout World.hostAnswer I (operate o) w :=
  Flow.throughout_ask.2 ⟨h, Flow.throughout_done hafter⟩

/-- What holds `Throughout` a flow holds throughout its `answer`, which brings nothing about. -/
theorem throughout_answer {m : DriverRun Status} {w : World}
    (h : Fallible.Throughout World.act I m w) : m.answer.Throughout World.act I w :=
  Fallible.throughout_map h _

end

/-! ## The controller side -/

/-- An action of the controller side with the property `P`. -/
def ControlAction (P : Controller.signature.Action → Prop) (action : driverSignature.Action) : Prop :=
  Sum.elim P (fun _ => False) action

/-- The action is one of the controller side. -/
def IsControl : driverSignature.Action → Prop
  | .inl _ => True
  | .inr _ => False

theorem node_act {action : driverSignature.Action} (h : IsControl action) (w : World) :
    (World.act action w).2.node = w.node := by
  cases action with
  | inl action => cases action <;> rfl
  | inr action => cases h

/-- What happens on the controller side only (`IsControl`), a host does not see. -/
theorem throughout_of_only {α : Type} {m : Flow driverSignature α} (hm : m.Only IsControl)
    {I : World → Prop} (hI : ∀ w w' : World, w'.node = w.node → I w → I w') {w : World} (hw : I w) :
    m.Throughout World.act I w :=
  hm.throughout (fun _ s haction hs => hI s _ (node_act haction s) hs) hw

theorem node_of_only {α : Type} {m : Flow driverSignature α} (hm : m.Only IsControl) (w : World) :
    (m.run World.act w).2.node = w.node :=
  (throughout_of_only hm (I := fun w' => w'.node = w.node) (fun _ _ h hI => h.trans hI) rfl).last

section

variable {ε α : Type}

theorem only_onController (f : ε → DriverFault) (m : Controller.Run ε α) :
    Fallible.Only IsControl (onController f m) :=
  Fallible.Only.wrap (m := .ofFlow m.run.inLeft) (Flow.only_inLeft (fun _ => trivial) m.run) f

theorem only_onController_action {P : Controller.signature.Action → Prop} {ε α : Type}
    {m : Controller.Run ε α} (hm : Fallible.Only P m) (wrap : ε → DriverFault) :
    Fallible.Only (ControlAction P) (onController wrap m) :=
  Fallible.Only.wrap (m := .ofFlow m.run.inLeft) (Flow.Only.inLeft hm) wrap

theorem only_openSession : Fallible.Only IsControl openSession :=
  only_onController _ _

theorem only_volumeOf (options : Options) : Fallible.Only IsControl (volumeOf options) := by
  rw [volumeOf]
  split
  · exact Fallible.only_pure _
  · exact Fallible.only_throw _

theorem only_answer {P : driverSignature.Action → Prop} {m : DriverRun Status}
    (h : Fallible.Only P m) : m.answer.Only P :=
  Flow.Only.bind (m := m.run) h fun _ => trivial

theorem only_initDriver : initDriver.Only IsControl :=
  Flow.Only.bind (m := openSession.run) only_openSession fun _ => trivial

end

/-! ### Block volumes -/

namespace BlockVolume

variable (limits : Controller.Limits) (options : Options) (volume node : String)

theorem only_attach : Fallible.Only IsControl (BlockVolume.attach limits options node) := by
  refine (only_volumeOf options).bind fun name => only_openSession.bind fun session => ?_
  refine (only_onController _ _).bind fun machine => ?_
  refine (only_onController _ _).bind fun requested => ?_
  refine (only_onController _ _).bind fun attachment => ?_
  exact ((Fallible.only_ofExcept _).wrap _).bind fun device => Fallible.only_pure _

theorem only_detach : Fallible.Only IsControl (BlockVolume.detach limits volume node) := by
  refine only_openSession.bind fun session => ?_
  refine (only_onController _ _).bind fun attachment => ?_
  refine (only_onController _ _).bind fun _ => ?_
  exact (only_onController _ _).bind fun _ => Fallible.only_pure _

theorem only_isAttached : Fallible.Only IsControl (BlockVolume.isAttached limits options node) := by
  refine (only_volumeOf options).bind fun name => only_openSession.bind fun session => ?_
  refine (only_onController _ _).outcome.bind fun found => ?_
  split
  · exact Fallible.only_pure _
  · exact Fallible.only_pure _
  · exact Fallible.only_throw _

end BlockVolume

/-! ### File systems -/

namespace FileStorage

variable (limits : Controller.Limits) (options : Options) (volume node : String)

theorem only_attach : Fallible.Only IsControl (FileStorage.attach limits options node) := by
  refine (only_volumeOf options).bind fun name => only_openSession.bind fun session => ?_
  refine (only_onController _ _).bind fun target => ?_
  refine (only_onController _ _).bind fun requested => ?_
  exact (only_onController _ _).bind fun _ => Fallible.only_pure _

theorem only_detach : Fallible.Only IsControl (FileStorage.detach limits volume node) := by
  refine only_openSession.bind fun session => ?_
  refine (only_onController _ _).bind fun target => ?_
  exact (only_onController _ _).bind fun _ => Fallible.only_pure _

theorem only_isAttached : Fallible.Only IsControl (FileStorage.isAttached limits options node) := by
  refine (only_volumeOf options).bind fun name => only_openSession.bind fun session => ?_
  refine (only_onController _ _).bind fun target => ?_
  exact (only_onController _ _).bind fun _ => Fallible.only_pure _

end FileStorage

/-- **Two verbs are about the host.** Whatever driver answers any other one does not touch the host: all its
    actions are `IsControl`. -/
theorem only_dispatch (timing : Timing) (family : StorageFamily) {callOut : CallOut}
    (hmount : callOut.verb ≠ .mountDevice) (hunmount : callOut.verb ≠ .unmountDevice) :
    ((driverFor timing family).dispatch callOut).Only IsControl := by
  cases callOut with
  | mountDevice directory device options => exact absurd rfl hmount
  | unmountDevice directory => exact absurd rfl hunmount
  | init => cases family <;> exact only_initDriver
  | attach options node =>
    cases family with
    | block => exact only_answer (BlockVolume.only_attach timing.limits options node)
    | fileStorage => exact only_answer (FileStorage.only_attach timing.limits options node)
  | detach volume node =>
    cases family with
    | block => exact only_answer (BlockVolume.only_detach timing.limits volume node)
    | fileStorage => exact only_answer (FileStorage.only_detach timing.limits volume node)
  | isAttached options node =>
    cases family with
    | block => exact only_answer (BlockVolume.only_isAttached timing.limits options node)
    | fileStorage => exact only_answer (FileStorage.only_isAttached timing.limits options node)
  | waitForAttach device options => cases family <;> trivial
  | getVolumeName options => cases family <;> trivial
  | mount directory options => cases family <;> trivial
  | unmount directory => cases family <;> trivial

end VolumeDriver.InMemory
