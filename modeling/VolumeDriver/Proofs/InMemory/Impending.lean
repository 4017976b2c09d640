import VolumeDriver.Proofs.Host.Unmount
import VolumeDriver.Proofs.InMemory.Operations
set_option autoImplicit false

/-! # A fault that comes over a host at any moment

`Impending` is a world whose host is made to fail an operation once some actions have gone by. Flows of
the host side can be run against it. `Bears` says of such a flow what it hands on where it succeeds, and
what it leaves behind where it fails and no fault is waiting any more. Both are told of the host without
its records, `Node.bare`, to which nothing else matters that has happened. -/

namespace VolumeDriver.InMemory

open Host

namespace Node

variable {n m x : Node} {o : Operation}

/-! ## The host without its records -/

/-- The host without the record of calls and without the faults that wait. -/
def bare (n : Node) : Node :=
  { n with failures := .empty, calls := [] }

@[simp] theorem bare_bare (n : Node) : n.bare.bare = n.bare := rfl

@[simp] theorem bare_noted (n : Node) (o : Operation) : (n.noted o).bare = n.bare := rfl

theorem calm_bare (n : Node) : n.bare.Calm :=
  fun _ he => nomatch he

theorem format_bare (n : Node) (device fsType : String) :
    n.bare.format device fsType =
      ((n.format device fsType).1, (n.format device fsType).2.bare) := by
  by_cases present : n.devices.contains device
  · cases content : n.fileSystems.get? device with
    | none => simp [format, bare, present, content]
    | some existing =>
      by_cases same : existing = fsType <;> simp [format, bare, present, content, same]
  · simp [format, bare, present]

theorem mount_bare (n : Node) (source target fsType : String) :
    n.bare.mount source target fsType =
      ((n.mount source target fsType).1, (n.mount source target fsType).2.bare) := by
  by_cases known : n.directories.contains target <;> simp [mount, bare, known]

theorem unmount_bare (n : Node) (target : String) :
    n.bare.unmount target = ((n.unmount target).1, (n.unmount target).2.bare) := by
  by_cases mounted : n.mounts.any fun e => e.target = target
  · rw [unmount, unmount, if_pos mounted]
    exact if_pos mounted
  · rw [unmount, unmount, if_neg mounted]
    exact if_neg mounted

/-- What `respond` answers does not depend on the records. -/
theorem respond_bare (h : n.Calm) (o : Operation) :
    (n.bare.respond o).1 = (n.respond o).1 ∧ (n.bare.respond o).2.bare = (n.respond o).2.bare := by
  cases o with
  | setAutomaticLogin target =>
    by_cases known : n.records.contains target.iqn <;> simp [respond, bare, known]
  | byPathLink device =>
    cases hlink : IscsiTarget.ofDevicePath device <;> simp [respond, hlink]
  | formatAndMount device target fsType options =>
    have hcalm : (n.format device fsType).2.Calm := by
      rw [Calm, failures_format]
      exact h
    rw [respond, respond, format_bare]
    rcases hformat : n.format device fsType with ⟨fault | value, m⟩
    · exact ⟨rfl, rfl⟩
    · rw [hformat] at hcalm
      -- The mount after formatting is put on record in both hosts, which does not show in either.
      simp only [record_calm hcalm, record_calm m.calm_bare]
      have hbare := mount_bare (m.noted (.mount device target fsType options)) device target fsType
      have hbare' := mount_bare (m.bare.noted (.mount device target fsType options)) device target
        fsType
      rw [bare_noted] at hbare hbare'
      rw [bare_bare] at hbare'
      rw [hbare] at hbare'
      exact ⟨(congrArg Prod.fst hbare').symm, (congrArg Prod.snd hbare').symm⟩
  | mount source target fsType options =>
    rw [respond, respond, mount_bare]
    exact ⟨rfl, rfl⟩
  | unmount target =>
    rw [respond, respond, unmount_bare]
    exact ⟨rfl, rfl⟩
  | _ => exact ⟨rfl, rfl⟩

theorem operate_bare (h : n.Calm) (o : Operation) :
    (n.operate o).1 = (n.bare.respond o).1 ∧ (n.operate o).2.bare = (n.bare.respond o).2.bare := by
  rw [operate_calm h]
  obtain ⟨hvalue, hbare⟩ := respond_bare (h.noted o) o
  exact ⟨hvalue.symm, hbare.symm⟩

/-- Hosts that only differ in their records answer `operate` alike, and stay so. -/
theorem operate_alike (hn : n.Calm) (hm : m.Calm) (h : n.bare = m.bare) (o : Operation) :
    (n.operate o).1 = (m.operate o).1 ∧ (n.operate o).2.bare = (m.operate o).2.bare := by
  rw [(operate_bare hn o).1, (operate_bare hn o).2, (operate_bare hm o).1, (operate_bare hm o).2, h]
  exact ⟨rfl, rfl⟩

/-- What an operation that succeeds does to the host without its records. -/
theorem bare_operate {value : o.Value} (ho : ¬ChangesMounts o)
    (h : n.operate o = (.ok value, x)) : x.bare = n.bare.after o := by
  rcases operate_cases n o with ⟨fault, hfault⟩ | hanswer
  · rw [hfault] at h
    cases h
  rw [hanswer] at h
  cases o with
  | setAutomaticLogin target =>
    simp only [respond] at h
    split at h
    · cases h
      rfl
    · cases h
  | byPathLink device =>
    simp only [respond] at h
    split at h <;> (cases h; rfl)
  | formatAndMount device target fsType options => exact absurd trivial ho
  | mount source target fsType options => exact absurd trivial ho
  | unmount target => exact absurd trivial ho
  | _ => cases h; rfl

/-! ## What an operation that fails leaves behind -/

/-- A device is there and holds no file system. -/
def Blank (n : Node) (device : String) : Prop :=
  n.devices.contains device = true ∧ n.fileSystems.get? device = none

/-- The host that has formatted a device. -/
def formatted (n : Node) (device fsType : String) : Node :=
  { n with fileSystems := n.fileSystems.insert device fsType, formats := n.formats + 1 }

/-- What an operation that fails may leave behind: all as it was, unless a `Blank` device was formatted and
    could not be mounted. -/
def Leaves (n : Node) (o : Operation) (left : Node) : Prop :=
  left.bare = n.bare ∨ ∃ device directory fsType options,
    o = .formatAndMount device directory fsType options ∧ n.Blank device ∧
      left.bare = (n.formatted device fsType).bare

theorem format_ok {device fsType : String} (h : n.format device fsType = (.ok (), x)) :
    x = n ∨ n.Blank device ∧ x = n.formatted device fsType := by
  rw [format] at h
  split at h
  · rename_i present
    split at h
    · rename_i blank
      cases h
      exact .inr ⟨⟨present, blank⟩, rfl⟩
    · split at h
      · cases h
        exact .inl rfl
      · cases h
  · cases h

theorem format_error {device fsType : String} {fault : Host.Fault}
    (h : n.format device fsType = (.error fault, x)) : x = n := by
  rw [format] at h
  split at h
  · split at h
    · cases h
    · split at h
      · cases h
      · cases h
        rfl
  · cases h
    rfl

theorem mount_error {source target fsType : String} {fault : Host.Fault}
    (h : n.mount source target fsType = (.error fault, x)) : x = n := by
  rw [mount] at h
  split at h
  · cases h
  · cases h
    rfl

/-- A `format` that succeeds and a mount that does not. -/
theorem leaves_of_format {device directory fsType : String} {options : List String}
    (h : n.format device fsType = (.ok (), m)) (hx : x.bare = m.bare) :
    n.Leaves (.formatAndMount device directory fsType options) x := by
  rcases format_ok h with rfl | ⟨blank, rfl⟩
  · exact .inl hx
  · exact .inr ⟨device, directory, fsType, options, rfl, blank, hx⟩

theorem leaves_respond {fault : Host.Fault} (h : n.respond o = (.error fault, x)) :
    n.Leaves o x := by
  cases o with
  | setAutomaticLogin target =>
    simp only [respond] at h
    split at h
    · cases h
    · cases h
      exact .inl rfl
  | byPathLink device =>
    simp only [respond] at h
    split at h <;> cases h
  | formatAndMount device target fsType options =>
    rw [respond] at h
    rcases hformat : n.format device fsType with ⟨refusal | _, m⟩
    · rw [hformat] at h
      cases h
      exact .inl (congrArg bare (format_error hformat))
    · rw [hformat] at h
      have hrecord : (m.record (.mount device target fsType options)).2.bare = m.bare := rfl
      rcases hm : m.record (.mount device target fsType options) with ⟨_ | waiting, m'⟩
      · simp only [hm] at h
        rw [hm] at hrecord
        exact leaves_of_format hformat ((congrArg bare (mount_error h)).trans hrecord)
      · simp only [hm] at h
        rw [hm] at hrecord
        cases h
        exact leaves_of_format hformat hrecord
  | mount source target fsType options => exact .inl (congrArg bare (mount_error h))
  | unmount target =>
    simp only [respond, unmount] at h
    split at h
    · cases h
    · cases h
      exact .inl rfl
  | _ => cases h

theorem Leaves.of_bare (h : n.bare = m.bare) (hx : n.Leaves o x) : m.Leaves o x := by
  rcases hx with hx | ⟨device, directory, fsType, options, ho, ⟨present, blank⟩, hx⟩
  · exact .inl (hx.trans h)
  · refine .inr ⟨device, directory, fsType, options, ho, ⟨?_, ?_⟩, ?_⟩
    · rwa [← show n.devices = m.devices from (congrArg Node.devices h :)]
    · rwa [← show n.fileSystems = m.fileSystems from (congrArg Node.fileSystems h :)]
    · exact hx.trans (congrArg (formatted · device fsType) h)

/-- **What an operation that fails `Leaves` behind**, whatever it fails with. -/
theorem leaves_operate {fault : Host.Fault} (h : n.operate o = (.error fault, x)) :
    n.Leaves o x := by
  have hrecord : (n.record o).2.bare = n.bare := rfl
  rw [operate] at h
  rcases hm : n.record o with ⟨_ | waiting, m⟩
  · rw [hm] at h hrecord
    exact (leaves_respond h).of_bare hrecord
  · rw [hm] at h hrecord
    cases h
    exact .inl hrecord

/-! ## One fault that waits -/

theorem not_calm_failNext (n : Node) (name : String) (fault : Host.Fault) :
    ¬(n.failNext name fault).Calm := by
  intro h
  have hwaits : (n.failures.push name fault).get? name =
      some ((n.failures.get? name).getD [] ++ [fault]) :=
    Dictionary.get?_insert_self ..
  exact List.append_ne_nil_of_right_ne_nil _ (List.cons_ne_nil _ _)
    (h _ (Dictionary.mem_of_lookup hwaits))

theorem format_failNext (n : Node) (name : String) (fault : Host.Fault) (device fsType : String) :
    (n.failNext name fault).format device fsType =
      ((n.format device fsType).1, (n.format device fsType).2.failNext name fault) := by
  by_cases present : n.devices.contains device
  · cases content : n.fileSystems.get? device with
    | none => simp [format, failNext, present, content]
    | some existing =>
      by_cases same : existing = fsType <;> simp [format, failNext, present, content, same]
  · simp [format, failNext, present]

theorem record_failNext_ne (h : n.Calm) {name : String} (hne : operationName o ≠ name)
    (fault : Host.Fault) :
    (n.failNext name fault).record o = (none, (n.noted o).failNext name fault) := by
  simp only [record, failNext, h.pop_push_ne hne, noted]

/-- A fault may wait for the mount after a format. -/
theorem formatAndMount_waiting (h : n.Calm) (name : String) (fault : Host.Fault)
    (device target fsType : String) (options : List String) :
    let o := Operation.formatAndMount device target fsType options
    (∃ x, (n.failNext name fault).respond o = (.error fault, x)) ∨
      (n.failNext name fault).respond o = ((n.respond o).1, (n.respond o).2.failNext name fault) := by
  have hcalm : (n.format device fsType).2.Calm := by
    rw [Calm, failures_format]
    exact h
  simp only [respond, format_failNext]
  rcases hformat : n.format device fsType with ⟨refusal | _, m⟩
  · exact .inr rfl
  rw [hformat] at hcalm
  by_cases hmount : operationName (.mount device target fsType options) = name
  · subst hmount
    refine .inl ⟨m.faulted (.mount device target fsType options), ?_⟩
    simp only [record, failNext, hcalm.pop_push]
    rfl
  · right
    simp only [record_failNext_ne hcalm hmount, record_calm hcalm, mount_failNext]
    rfl

/-- Where `failNext` has one fault wait, an operation meets it or is answered as if it were not there. -/
theorem operate_waiting (h : n.Calm) (name : String) (fault : Host.Fault) (o : Operation) :
    (∃ x, (n.failNext name fault).operate o = (.error fault, x)) ∨
      (n.failNext name fault).operate o = ((n.operate o).1, (n.operate o).2.failNext name fault) := by
  by_cases hname : operationName o = name
  · subst hname
    exact .inl ⟨_, operate_failNext h o fault⟩
  cases o with
  | formatAndMount device target fsType options =>
    rw [operate, record_failNext_ne h hname, operate_calm h]
    exact formatAndMount_waiting (h.noted _) name fault device target fsType options
  | _ => exact .inr (operate_failNext_ne h hname (by simp) fault)

end Node

/-! ## Runs on hosts that only differ in their records -/

/-- Two runs have come to the same, but for what is on record. -/
def Alike {α : Type} (a b : α × World) : Prop :=
  a.1 = b.1 ∧ a.2.node.bare = b.2.node.bare

theorem Alike.trans {α : Type} {a b c : α × World} (hab : Alike a b) (hbc : Alike b c) :
    Alike a c :=
  ⟨hab.1.trans hbc.1, hab.2.trans hbc.2⟩

theorem Alike.symm {α : Type} {a b : α × World} (h : Alike a b) : Alike b a :=
  ⟨h.1.symm, h.2.symm⟩

/-- Flows do not see what is on record, so their runs are `Alike`. -/
theorem run_alike {α : Type} (m : Flow Host.signature α) {v w : World} (hv : v.node.Calm)
    (hw : w.node.Calm) (h : v.node.bare = w.node.bare) :
    Alike (m.run World.hostAnswer v) (m.run World.hostAnswer w) := by
  induction m generalizing v w with
  | done a => exact ⟨rfl, h⟩
  | ask action next ih =>
    cases action with
    | pause milliseconds =>
      exact ih () (v := { v with clock := v.clock + milliseconds })
        (w := { w with clock := w.clock + milliseconds }) hv hw h
    | operate o =>
      obtain ⟨hvalue, hbare⟩ := Node.operate_alike hv hw h o
      have hrest := ih (v.node.operate o).1 (v := { v with node := (v.node.operate o).2 })
        (w := { w with node := (w.node.operate o).2 }) (hv.operate o) (hw.operate o) hbare
      refine hrest.trans ?_
      rw [hvalue]
      exact ⟨rfl, rfl⟩

/-! ## A fault at any moment -/

/-- A world, and when its host is made to fail an operation. -/
structure Impending where
  world : World
  /-- how many actions come before that; none if it has been done -/
  due : Option Nat

namespace Impending

variable {α β : Type} {name : String} {fault : Host.Fault} {n : Node} {p : Impending}

/-- The world as the next action finds it. -/
def found (name : String) (fault : Host.Fault) (p : Impending) : World :=
  if p.due = some 0 then p.world.failingHost name fault else p.world

/-- The moment is one action nearer. -/
def nearer : Option Nat → Option Nat
  | some (k + 1) => some k
  | _ => none

/-- Answers an action of the host side. -/
def answer (name : String) (fault : Host.Fault) (action : Host.signature.Action) (p : Impending) :
    Host.signature.Answer action × Impending :=
  let (reply, world) := World.hostAnswer action (p.found name fault)
  (reply, ⟨world, nearer p.due⟩)

/-- The fault is still to be met, on a host that is otherwise calm and that is `n` but for its
    records. -/
def Pending (name : String) (fault : Host.Fault) (n : Node) (p : Impending) : Prop :=
  ∃ m : Node, m.Calm ∧ m.bare = n ∧
    (p.due ≠ none ∧ p.world.node = m ∨ p.due = none ∧ p.world.node = m.failNext name fault)

theorem Pending.bare (h : Pending name fault n p) : p.world.node.bare = n := by
  obtain ⟨m, _, rfl, ⟨_, hm⟩ | ⟨_, hm⟩⟩ := h <;> rw [hm]
  rfl

/-- Either the fault waits when the next action comes, or it is still not due afterwards. -/
theorem Pending.found (h : Pending name fault n p) :
    ∃ m : Node, m.Calm ∧ m.bare = n ∧
      (nearer p.due ≠ none ∧ (p.found name fault).node = m ∨
        nearer p.due = none ∧ (p.found name fault).node = m.failNext name fault) := by
  obtain ⟨m, hcalm, hbare, ⟨hdue, hm⟩ | ⟨hdue, hm⟩⟩ := h
  · refine ⟨m, hcalm, hbare, ?_⟩
    rcases hk : p.due with _ | _ | k
    · exact absurd hk hdue
    · refine .inr ⟨rfl, ?_⟩
      rw [Impending.found, if_pos hk, World.failingHost, hm]
    · refine .inl ⟨nofun, ?_⟩
      rw [Impending.found, if_neg (by rw [hk]; simp), hm]
  · refine ⟨m, hcalm, hbare, .inr ⟨?_, ?_⟩⟩
    · rw [hdue]
      rfl
    · rw [Impending.found, if_neg (by rw [hdue]; simp), hm]

end Impending

/-! ## What flows make of it -/

/-- Where the flow succeeds, the fault is still to be met, and `passesOn` holds of the value and the
    host. Where it fails and no fault waits any more, `leaves` holds of the host. -/
def Bears {α : Type} (name : String) (fault : Host.Fault) (m : Host.Run α) (n : Node)
    (leaves : Node → Prop) (passesOn : α → Node → Prop) : Prop :=
  ∀ p, Impending.Pending name fault n p →
    match Fallible.runs (Impending.answer name fault) m p with
    | (.ok a, p') => ∃ n', Impending.Pending name fault n' p' ∧ passesOn a n'
    | (.error _, p') => p'.world.node.Calm → leaves p'.world.node.bare

section

variable {α β : Type} {name : String} {fault : Host.Fault} {n : Node} {leaves : Node → Prop}

theorem bears_pure {a : α} {passesOn : α → Node → Prop} (h : passesOn a n) :
    Bears name fault (pure a : Host.Run α) n leaves passesOn :=
  fun _ hp => ⟨n, hp, h⟩

theorem bears_throw {refusal : Host.Fault} {passesOn : α → Node → Prop} (h : leaves n) :
    Bears name fault (throw refusal : Host.Run α) n leaves passesOn :=
  fun _ hp _ => hp.bare ▸ h

theorem bears_ofExcept {x : Except Host.Fault α} {passesOn : α → Node → Prop} (h : leaves n)
    (hok : ∀ a, x = .ok a → passesOn a n) :
    Bears name fault (.ofExcept x : Host.Run α) n leaves passesOn := by
  cases x with
  | ok a => exact bears_pure (hok a rfl)
  | error refusal => exact bears_throw h

/-- In `Bears`, one flow after another. -/
theorem Bears.bind {m : Host.Run α} {f : α → Host.Run β} {between : α → Node → Prop}
    {passesOn : β → Node → Prop} (hm : Bears name fault m n leaves between)
    (hf : ∀ a n', between a n' → Bears name fault (f a) n' leaves passesOn) :
    Bears name fault (m >>= f) n leaves passesOn := by
  intro p hp
  have hfirst := hm p hp
  rw [Fallible.runs_bind]
  rcases hrun : Fallible.runs (Impending.answer name fault) m p with ⟨refusal | a, p'⟩
  · rw [hrun] at hfirst
    exact hfirst
  · rw [hrun] at hfirst
    obtain ⟨n', hp', hbetween⟩ := hfirst
    exact hf a n' hbetween p' hp'

theorem Bears.imp {m : Host.Run α} {passesOn passesOn' : α → Node → Prop}
    (hm : Bears name fault m n leaves passesOn) (h : ∀ a n', passesOn a n' → passesOn' a n') :
    Bears name fault m n leaves passesOn' := by
  intro p hp
  have hrun := hm p hp
  split at hrun
  · obtain ⟨n', hp', hpassed⟩ := hrun
    exact ⟨n', hp', h _ n' hpassed⟩
  · exact hrun

/-- An operation meets the fault, or does what it would have done without. -/
theorem bears_operate {o : Operation} {passesOn : o.Value → Node → Prop}
    (hleaves : ∀ left, n.Leaves o left → leaves left.bare)
    (hok : ∀ value x, n.operate o = (.ok value, x) → passesOn value x.bare) :
    Bears name fault (operate o) n leaves passesOn := by
  intro p hp
  obtain ⟨m, hcalm, rfl, hfound⟩ := hp.found
  -- A calm host answers as the host without its records does.
  have halike := Node.operate_alike m.calm_bare hcalm rfl o
  have hpasses : ∀ value x, m.operate o = (.ok value, x) → passesOn value x.bare := by
    intro value x hrun
    rw [hrun] at halike
    have hpassed := hok value (m.bare.operate o).2 (Prod.ext halike.1 rfl)
    rwa [halike.2] at hpassed
  have hleft : ∀ refusal x, (m.operate o = (.error refusal, x) ∨
      (m.failNext name fault).operate o = (.error refusal, x)) → leaves x.bare := by
    rintro refusal x (hrun | hrun)
    · exact hleaves x ((Node.leaves_operate hrun).of_bare rfl)
    · exact hleaves x ((Node.leaves_operate hrun).of_bare rfl)
  have hruns : Fallible.runs (Impending.answer name fault) (operate o) p =
      (((p.found name fault).node.operate o).1,
        ⟨{ p.found name fault with node := ((p.found name fault).node.operate o).2 },
          Impending.nearer p.due⟩) :=
    rfl
  rw [hruns]
  rcases hfound with ⟨hdue, hnode⟩ | ⟨hdue, hnode⟩
  · -- The fault is not due yet.
    rw [hnode]
    rcases hrun : m.operate o with ⟨refusal | value, x⟩
    · exact fun _ => hleft refusal x (.inl hrun)
    · refine ⟨x.bare, ⟨x, ?_, rfl, .inl ⟨hdue, rfl⟩⟩, hpasses value x hrun⟩
      have hstays := hcalm.operate o
      rwa [hrun] at hstays
  · rw [hnode]
    rcases Node.operate_waiting hcalm name fault o with ⟨x, hmet⟩ | hspared
    · -- It is met.
      rw [hmet]
      exact fun _ => hleft fault x (.inr hmet)
    · rw [hspared]
      rcases hrun : m.operate o with ⟨refusal | value, x⟩
      · exact fun hover => absurd hover (x.not_calm_failNext name fault)
      · refine ⟨x.bare, ⟨x, ?_, rfl, .inr ⟨hdue, rfl⟩⟩, hpasses value x hrun⟩
        have hstays := hcalm.operate o
        rwa [hrun] at hstays

theorem bears_pause (milliseconds : Nat) {passesOn : Unit → Node → Prop} (h : passesOn () n) :
    Bears name fault (liftM (pause milliseconds) : Host.Run Unit) n leaves passesOn := by
  intro p hp
  obtain ⟨m, hcalm, hbare, hfound⟩ := hp.found
  exact ⟨n, ⟨m, hcalm, hbare, hfound⟩, h⟩

end

end VolumeDriver.InMemory
