import VolumeDriver.Host.Nfs
import VolumeDriver.Proofs.Flow.Events
set_option autoImplicit false

/-! # Flows of the host side that take care

A flow of the host side ends with the first operation that fails (`FailsFast`). What it refuses on its own
account it refuses before it has done anything but look (`Cautious`), and a mount of a volume before it has
done anything at all. Neither says anything of hosts: it is a matter of what the flow is answered. -/

namespace VolumeDriver

namespace Host

open Fallible

/-! ## Properties that sequences keep -/

/-- A property of flows that operations and pauses have and that sequences keep. -/
structure Composes (P : {α : Type} → Run α → Prop) : Prop where
  value : ∀ {α : Type} (a : α), P (pure a)
  sequence : ∀ {α β : Type} {m : Run α} {f : α → Run β}, P m → (∀ a, P (f a)) → P (m >>= f)
  operation : ∀ o, P (operate o)
  interval : ∀ milliseconds, P (liftM (pause milliseconds) : Run Unit)

section Composes

variable {P : {α : Type} → Run α → Prop}

theorem Composes.lookForDevice (h : Composes P) {exhausted : Fault}
    (hexhausted : P (throw exhausted : Run Unit)) (device : String) (interval attempts : Nat) :
    P (lookForDevice device interval exhausted attempts) := by
  induction attempts with
  | zero => exact hexhausted
  | succ attempts ih =>
    refine h.sequence (h.operation (.deviceExists device)) fun found => ?_
    split
    · exact h.value ()
    · split
      · exact h.sequence (h.interval interval) fun _ => ih
      · exact ih

/-- The part of `mountVolume` in which the target is known. -/
theorem Composes.mountTarget (h : Composes P) {device : String} {wait : DeviceWait}
    (hmissing : P (throw (.deviceMissing device wait.attempts) : Run Unit)) (target : IscsiTarget)
    (directory fsType : String) (options : List String) :
    P (do
      let opened : Bool ← operate (.deviceOpened device)
      if opened then return .alreadyMounted
      else
        operate (.addRecord target)
        operate (.setAutomaticLogin target)
        operate (.login target)
        waitForDevice device wait
        operate (.formatAndMount device directory fsType options)
        return .mounted : Run MountOutcome) := by
  refine h.sequence (h.operation (.deviceOpened device)) fun opened => ?_
  split
  · exact h.value _
  · refine h.sequence (h.operation (.addRecord target)) fun _ => ?_
    refine h.sequence (h.operation (.setAutomaticLogin target)) fun _ => ?_
    refine h.sequence (h.operation (.login target)) fun _ => ?_
    refine h.sequence (h.lookForDevice hmissing device _ _) fun _ => ?_
    exact h.sequence (h.operation (.formatAndMount device directory fsType options)) fun _ =>
      h.value _

/-- The part of `unmountVolume` in which the target is known. -/
theorem Composes.unmountTarget (h : Composes P) (directory : String) (target : IscsiTarget) :
    P (do
      operate (.unmount directory)
      operate (.logout target)
      operate (.removeRecord target)
      return .unmounted : Run UnmountOutcome) := by
  refine h.sequence (h.operation (.unmount directory)) fun _ => ?_
  refine h.sequence (h.operation (.logout target)) fun _ => ?_
  exact h.sequence (h.operation (.removeRecord target)) fun _ => h.value _

end Composes

/-! ## Flows that end with the first operation that fails -/

/-- An operation that fails with a fault, as an event. -/
def failed (o : Operation) (fault : Fault) : Event signature :=
  ⟨Action.operate o, (.error fault : Except Fault o.Value)⟩

/-- Nothing comes after an operation that has `failed`, and its fault is what the flow comes to. -/
def FailsFast {α : Type} (m : Run α) : Prop :=
  ∀ trace result, Ends m trace result → ∀ before o fault afterwards,
    trace = before ++ failed o fault :: afterwards → afterwards = [] ∧ result = .error fault

section FailsFast

variable {α β : Type}

/-- A flow that asks for nothing, as `ofExcept` does not. -/
theorem failsFast_ofExcept (x : Except Fault α) : FailsFast (.ofExcept x : Run α) := by
  intro trace result h before o fault afterwards htrace
  obtain ⟨rfl, -⟩ := ends_ofExcept h
  simp at htrace

theorem failsFast_pure (a : α) : FailsFast (pure a : Run α) :=
  failsFast_ofExcept (.ok a)

theorem failsFast_throw (fault : Fault) : FailsFast (throw fault : Run α) :=
  failsFast_ofExcept (.error fault)

theorem ends_operate {o : Operation} {trace : List (Event signature)} {result : Except Fault o.Value}
    (h : Ends (operate o) trace result) : trace = [⟨Action.operate o, result⟩] :=
  Flow.ends_perform (ends_ofFlow h)

theorem failsFast_operate (o : Operation) : FailsFast (operate o) := by
  intro trace result h before o' fault afterwards htrace
  rw [ends_operate h] at htrace
  cases before with
  | nil =>
    obtain ⟨hevent, rfl⟩ := List.cons.inj htrace
    cases hevent
    exact ⟨rfl, rfl⟩
  | cons first before => simp at htrace

theorem failsFast_pause (milliseconds : Nat) :
    FailsFast (liftM (pause milliseconds) : Run Unit) := by
  intro trace result h before o fault afterwards htrace
  cases h with
  | step path =>
    obtain ⟨rfl, -⟩ := Flow.ends_done path
    cases before with
    | nil => cases (List.cons.inj htrace).1
    | cons first before => simp at htrace

/-- What follows a flow that comes to a value may fail, and the flow itself has not. -/
theorem FailsFast.bind {m : Run α} {f : α → Run β} (hm : FailsFast m) (hf : ∀ a, FailsFast (f a)) :
    FailsFast (m >>= f) := by
  intro trace result h before o fault afterwards htrace
  rcases ends_bind h with ⟨fault', rfl, hfirst⟩ | ⟨first, rest, a, rfl, hfirst, hrest⟩
  · obtain ⟨hlast, hfault⟩ := hm _ _ hfirst before o fault afterwards htrace
    cases hfault
    exact ⟨hlast, rfl⟩
  -- The operation that fails is one of what follows, for the flow itself has come to a value.
  rcases List.append_eq_append_iff.1 htrace with ⟨between, rfl, hsplit⟩ | ⟨between, hsplit, hend⟩
  · exact hf a _ _ hrest between o fault afterwards hsplit
  · cases between with
    | nil => exact hf a _ _ hrest [] o fault afterwards hend.symm
    | cons e between =>
      obtain ⟨rfl, -⟩ := List.cons.inj hend
      cases (hm _ _ hfirst before o fault between hsplit).2

theorem composes_failsFast : Composes FailsFast :=
  ⟨failsFast_pure, FailsFast.bind, failsFast_operate, failsFast_pause⟩

theorem failsFast_mountVolume (directory device fsType : String) (options : List String)
    (wait : DeviceWait) : FailsFast (mountVolume directory device fsType options wait) :=
  (failsFast_ofExcept _).bind fun target =>
    composes_failsFast.mountTarget (failsFast_throw _) target directory fsType options

theorem failsFast_mountAt (directory : String) : FailsFast (mountAt directory) :=
  FailsFast.bind (failsFast_operate .mounts) fun _ => failsFast_pure _

theorem failsFast_unmountVolume (directory : String) : FailsFast (unmountVolume directory) := by
  refine (failsFast_mountAt directory).bind fun found => ?_
  split
  · exact failsFast_pure _
  · refine FailsFast.bind (failsFast_operate (.byPathLink _)) fun link => ?_
    split
    · exact failsFast_throw _
    · refine (failsFast_ofExcept _).bind fun target => ?_
      exact composes_failsFast.unmountTarget directory target

end FailsFast

/-! ## Flows that look before they act -/

/-- A fault by which a flow says that it will not touch what it was given. -/
def Fault.IsRefusal : Fault → Prop
  | .invalidDevicePath .. | .notIscsi .. | .foreignMount .. => True
  | _ => False

instance (fault : Fault) : Decidable fault.IsRefusal :=
  match fault with
  | .invalidDevicePath .. | .notIscsi .. | .foreignMount .. => .isTrue trivial
  | .spawn .. | .command .. | .access .. | .deviceMissing .. | .filesystemMismatch .. =>
    .isFalse id

/-- The action reads the mount table or looks for the link of a device. -/
def IsLook : signature.Action → Prop
  | .operate .mounts | .operate (.byPathLink _) => True
  | _ => False

/-- No `Fault.IsRefusal` comes from the flow itself, but only from an operation that fails so. -/
def Unrefusing {α : Type} (m : Run α) : Prop :=
  ∀ trace fault, Ends m trace (.error fault) →
    (∃ o, failed o fault ∈ trace) ∨ ¬fault.IsRefusal

/-- The flow has done nothing but look, or its looks have not failed and it refuses nothing any more. -/
def Cautious {α : Type} (m : Run α) : Prop :=
  ∀ trace result, Ends m trace result →
    (∀ e ∈ trace, IsLook e.action) ∨
      (∀ o fault, failed o fault ∈ trace → ¬IsLook (.operate o)) ∧
        ∀ fault, result = .error fault → fault.IsRefusal → ∃ o, failed o fault ∈ trace

section Cautious

variable {α β : Type}

theorem unrefusing_pure (a : α) : Unrefusing (pure a : Run α) := by
  intro trace fault h
  cases (ends_pure h).2

theorem unrefusing_throw {fault : Fault} (hfault : ¬fault.IsRefusal) :
    Unrefusing (throw fault : Run α) := by
  intro trace fault' h
  cases (ends_throw h).2
  exact .inr hfault

theorem unrefusing_operate (o : Operation) : Unrefusing (operate o) := by
  intro trace fault h
  rw [ends_operate h]
  exact .inl ⟨o, List.mem_singleton.2 rfl⟩

theorem Unrefusing.bind {m : Run α} {f : α → Run β} (hm : Unrefusing m)
    (hf : ∀ a, Unrefusing (f a)) : Unrefusing (m >>= f) := by
  intro trace fault h
  rcases ends_bind h with ⟨fault', hfault, hfirst⟩ | ⟨first, rest, a, rfl, -, hrest⟩
  · cases hfault
    exact hm trace fault hfirst
  · rcases hf a rest fault hrest with ⟨o, hmem⟩ | hother
    · exact .inl ⟨o, List.mem_append_right _ hmem⟩
    · exact .inr hother

theorem unrefusing_pause (milliseconds : Nat) :
    Unrefusing (liftM (pause milliseconds) : Run Unit) := by
  intro trace fault h
  cases h with
  | step path => cases (Flow.ends_done path).2

theorem composes_unrefusing : Composes Unrefusing :=
  ⟨unrefusing_pure, Unrefusing.bind, unrefusing_operate, unrefusing_pause⟩

theorem cautious_ofExcept (x : Except Fault α) : Cautious (.ofExcept x : Run α) := by
  intro trace result h
  obtain ⟨rfl, -⟩ := ends_ofExcept h
  exact .inl nofun

theorem cautious_pure (a : α) : Cautious (pure a : Run α) :=
  cautious_ofExcept (.ok a)

theorem cautious_throw (fault : Fault) : Cautious (throw fault : Run α) :=
  cautious_ofExcept (.error fault)

/-- A flow that does not look any more is `Cautious` if it is `Unrefusing`. -/
theorem cautious_of_acts {m : Run α} (honly : Fallible.Only (fun action => ¬IsLook action) m)
    (hm : Unrefusing m) : Cautious m := by
  intro trace result h
  refine .inr ⟨fun o fault hmem => Flow.Only.ends honly h _ hmem, ?_⟩
  rintro fault rfl hrefusal
  exact (hm trace fault h).resolve_right (not_not_intro hrefusal)

/-- A flow that begins with looks is `Cautious` if what follows them is. -/
theorem Cautious.after_looks {m : Run α} {f : α → Run β} (hlooks : Fallible.Only IsLook m)
    (hm : FailsFast m) (hf : ∀ a, Cautious (f a)) : Cautious (m >>= f) := by
  intro trace result h
  rcases ends_bind h with ⟨fault, rfl, hfirst⟩ | ⟨first, rest, a, rfl, hfirst, hrest⟩
  · exact .inl (Flow.Only.ends hlooks hfirst)
  have hlooked := Flow.Only.ends hlooks hfirst
  rcases hf a rest result hrest with hmore | ⟨hacts, hrefuses⟩
  · exact .inl fun e he => (List.mem_append.1 he).elim (hlooked e) (hmore e)
  · refine .inr ⟨fun o fault hmem => ?_, fun fault hresult hrefusal => ?_⟩
    · rcases List.mem_append.1 hmem with hmem | hmem
      · -- What comes to a value has not failed at a look.
        obtain ⟨before, afterwards, hsplit⟩ := List.append_of_mem hmem
        cases (hm _ _ hfirst before o fault afterwards hsplit).2
      · exact hacts o fault hmem
    · obtain ⟨o, hmem⟩ := hrefuses fault hresult hrefusal
      exact ⟨o, List.mem_append_right _ hmem⟩

theorem only_operate {P : signature.Action → Prop} {o : Operation} (h : P (.operate o)) :
    Fallible.Only P (operate o) :=
  Flow.only_perform (S := signature) h

theorem looks_mountAt (directory : String) : Fallible.Only IsLook (mountAt directory) :=
  Fallible.Only.bind (only_operate (o := .mounts) trivial) fun _ => Fallible.only_pure _

theorem cautious_mountExport (directory device : String) (options : List String) :
    Cautious (mountExport directory device options) := by
  refine Cautious.after_looks (Fallible.only_ofExcept _) (failsFast_ofExcept _) fun address => ?_
  refine Cautious.after_looks (looks_mountAt directory) (failsFast_mountAt directory) fun found => ?_
  split
  · split
    · exact cautious_pure _
    · exact cautious_throw _
  · exact cautious_of_acts ((only_operate id).bind fun _ => Fallible.only_pure _)
      ((unrefusing_operate _).bind fun _ => unrefusing_pure _)

theorem cautious_unmountVolume (directory : String) : Cautious (unmountVolume directory) := by
  refine Cautious.after_looks (looks_mountAt directory) (failsFast_mountAt directory) fun found => ?_
  split
  · exact cautious_pure _
  · refine Cautious.after_looks (only_operate (o := .byPathLink _) trivial)
      (failsFast_operate (.byPathLink _)) fun link => ?_
    split
    · exact cautious_throw _
    · refine Cautious.after_looks (Fallible.only_ofExcept _) (failsFast_ofExcept _) fun target => ?_
      refine cautious_of_acts ?_ ?_
      · refine (only_operate id).bind fun _ => (only_operate id).bind fun _ => ?_
        exact (only_operate id).bind fun _ => Fallible.only_pure _
      · exact composes_unrefusing.unmountTarget directory target

/-- What is refused before anything is asked for, if what comes after that is `Unrefusing`. -/
theorem refused_at_once {x : Except Fault α} {f : α → Run β} (hf : ∀ a, Unrefusing (f a))
    {trace : List (Event signature)} {fault : Fault} (hrefusal : fault.IsRefusal)
    (h : Ends (.ofExcept x >>= f) trace (.error fault)) :
    trace = [] ∨ ∃ o, failed o fault ∈ trace := by
  rcases ends_bind h with ⟨fault', -, hfirst⟩ | ⟨first, rest, a, rfl, -, hrest⟩
  · exact .inl (ends_ofExcept hfirst).1
  · obtain ⟨o, hmem⟩ := (hf a rest fault hrest).resolve_right (not_not_intro hrefusal)
    exact .inr ⟨o, List.mem_append_right _ hmem⟩

theorem mountVolume_refused_at_once {directory device fsType : String} {options : List String}
    {wait : DeviceWait} {trace : List (Event signature)} {fault : Fault} (hrefusal : fault.IsRefusal)
    (h : Ends (mountVolume directory device fsType options wait) trace (.error fault)) :
    trace = [] ∨ ∃ o, failed o fault ∈ trace := by
  refine refused_at_once (fun target => ?_) hrefusal h
  exact composes_unrefusing.mountTarget (unrefusing_throw id) target directory fsType options

end Cautious

end Host

end VolumeDriver
