import VolumeDriver.Proofs.Host.Caution
import VolumeDriver.Proofs.InMemory.Impending
set_option autoImplicit false

/-! # Refusals leave a host as it was

A host is left as it was by a refusal, and by a look that fails, for flows look before they act. Where any
other step fails no later one is taken. This holds of every host, whatever its operations were made to fail
with, as long as that is not itself a refusal (`Node.Spared`). -/

namespace VolumeDriver.InMemory

open Host

/-! ## Steps that fail -/

namespace Node

variable {n m left : Node} {o : Operation} {fault : Host.Fault}

/-- What a step that fails leaves behind: all as it was, but for the record of the call. In
    `Operation.formatAndMount` a device may have been formatted before its mount fails, which is then on
    record too. -/
inductive Stops (n : Node) : Operation → Node → Prop
  | undone {o : Operation} {left : Node} (bare : left.bare = n.bare)
      (calls : left.calls = n.calls ++ [operationName o]) : Stops n o left
  | formatted {device target fsType : String} {options : List String} {left : Node}
      (format : n.bare.format device fsType = (.ok (), left.bare))
      (calls : left.calls = n.calls ++ ["format_and_mount", "mount"]) :
      Stops n (.formatAndMount device target fsType options) left

theorem calls_format {device fsType : String} (h : n.format device fsType = (.ok (), m)) :
    m.calls = n.calls := by
  rcases format_ok h with rfl | ⟨-, rfl⟩
  · rfl
  · rfl

theorem stops_respond (hbare : m.bare = n.bare) (hcalls : m.calls = n.calls ++ [operationName o])
    (h : m.respond o = (.error fault, left)) : n.Stops o left := by
  have hundone : left = m → n.Stops o left := by
    rintro rfl
    exact .undone hbare hcalls
  cases o with
  | setAutomaticLogin target =>
    simp only [respond] at h
    split at h
    · cases h
    · cases h
      exact hundone rfl
  | byPathLink device =>
    simp only [respond] at h
    split at h <;> cases h
  | formatAndMount device target fsType options =>
    rw [respond] at h
    rcases hformat : m.format device fsType with ⟨refusal | _, x⟩
    · rw [hformat] at h
      cases h
      exact hundone (format_error hformat)
    · have hbareFormat : n.bare.format device fsType = (.ok (), x.bare) := by
        rw [← hbare, format_bare, hformat]
      have hcallsFormat : x.calls ++ ["mount"] = n.calls ++ ["format_and_mount", "mount"] := by
        rw [calls_format hformat, hcalls, List.append_assoc]
        rfl
      -- The mount fails as it was made to, or for itself. Neither leaves anything but its call.
      have hformatted : left = (x.record (.mount device target fsType options)).2 →
          n.Stops (.formatAndMount device target fsType options) left := by
        rintro rfl
        exact .formatted hbareFormat hcallsFormat
      rw [hformat] at h
      rcases hrecord : x.record (.mount device target fsType options) with ⟨_ | waiting, y⟩
      · rw [hrecord] at hformatted
        simp only [hrecord] at h
        exact hformatted (mount_error h)
      · rw [hrecord] at hformatted
        simp only [hrecord] at h
        cases h
        exact hformatted rfl
  | mount source target fsType options => exact hundone (mount_error h)
  | unmount target =>
    simp only [respond, unmount] at h
    split at h
    · cases h
    · cases h
      exact hundone rfl
  | _ => cases h

theorem stops_operate (h : n.operate o = (.error fault, left)) : n.Stops o left := by
  have hbare : (n.record o).2.bare = n.bare := rfl
  have hcalls : (n.record o).2.calls = n.calls ++ [operationName o] := rfl
  rw [operate] at h
  rcases hm : n.record o with ⟨_ | waiting, m⟩
  · rw [hm] at h hbare hcalls
    exact stops_respond hbare hcalls h
  · rw [hm] at h hbare hcalls
    cases h
    exact .undone hbare hcalls

/-! ## Faults that wait -/

/-- No `Fault.IsRefusal` is among the faults that operations were made to fail with. -/
def Spared (n : Node) : Prop :=
  ∀ e ∈ n.failures.entries, ∀ fault ∈ e.2, ¬fault.IsRefusal

instance (n : Node) : Decidable n.Spared :=
  inferInstanceAs (Decidable (∀ e ∈ n.failures.entries, ∀ fault ∈ e.2, ¬fault.IsRefusal))

/-- An answer that is no refusal, by a host that is still `Spared`. -/
def Spares {α : Type} (run : Except Host.Fault α × Node) : Prop :=
  run.2.Spared ∧ ∀ fault, run.1 = .error fault → ¬fault.IsRefusal

theorem Spared.ok {α : Type} (h : n.Spared) (a : α) : Spares (.ok a, n) :=
  ⟨h, nofun⟩

theorem Spared.error {α : Type} (h : n.Spared) (hfault : ¬fault.IsRefusal) :
    Spares ((.error fault, n) : Except Host.Fault α × Node) := by
  refine ⟨h, fun fault' heq => ?_⟩
  cases heq
  exact hfault

theorem Spared.record (h : n.Spared) (o : Operation) :
    (n.record o).2.Spared ∧ ∀ fault, (n.record o).1 = some fault → ¬fault.IsRefusal := by
  unfold Node.record Dictionary.pop
  simp only
  split
  · rename_i value rest hqueue
    have hqueued := h _ (Dictionary.mem_of_lookup hqueue)
    refine ⟨fun e he => ?_, fun fault hfault => ?_⟩
    · rcases Dictionary.mem_insertEntry he with rfl | he
      · exact fun fault hfault => hqueued fault (List.mem_cons_of_mem _ hfault)
      · exact h e he
    · cases hfault
      exact hqueued value List.mem_cons_self
  · exact ⟨h, nofun⟩

theorem Spared.mount (h : n.Spared) (source target fsType : String) :
    Spares (n.mount source target fsType) := by
  unfold Node.mount
  split
  · exact Spared.ok h ()
  · exact h.error id

theorem Spared.format (h : n.Spared) (device fsType : String) : Spares (n.format device fsType) := by
  unfold Node.format
  split
  · split
    · exact Spared.ok h ()
    · split
      · exact h.ok ()
      · exact h.error id
  · exact h.error id

/-- What an operation fails with for itself is no refusal. -/
theorem Spared.respond (h : n.Spared) (o : Operation) : Spares (n.respond o) := by
  cases o with
  | setAutomaticLogin target =>
    simp only [Node.respond]
    split
    · exact Spared.ok h ()
    · exact h.error id
  | byPathLink device =>
    simp only [Node.respond]
    split
    · exact h.ok _
    · exact h.ok _
  | formatAndMount device target fsType options =>
    have hformatted := h.format device fsType
    rw [Node.respond]
    rcases hformat : n.format device fsType with ⟨refusal | _, x⟩
    · rw [hformat] at hformatted
      exact hformatted
    · rw [hformat] at hformatted
      obtain ⟨hspared, hwaiting⟩ := hformatted.1.record (.mount device target fsType options)
      rcases hrecord : x.record (.mount device target fsType options) with ⟨_ | waiting, y⟩
      · rw [hrecord] at hspared
        simp only [hrecord]
        exact hspared.mount device target fsType
      · rw [hrecord] at hspared hwaiting
        simp only [hrecord]
        exact hspared.error (hwaiting waiting rfl)
  | mount source target fsType options => exact h.mount source target fsType
  | unmount target =>
    simp only [Node.respond, Node.unmount]
    split
    · exact Spared.ok h ()
    · exact h.error id
  | _ => exact Spared.ok h _

theorem Spared.operate (h : n.Spared) (o : Operation) : Spares (n.operate o) := by
  obtain ⟨hspared, hwaiting⟩ := h.record o
  rw [Node.operate]
  rcases hm : n.record o with ⟨_ | waiting, m⟩
  · rw [hm] at hspared
    exact hspared.respond o
  · rw [hm] at hspared hwaiting
    exact hspared.error (hwaiting waiting rfl)

theorem bare_operate_look (h : IsLook (.operate o)) : (n.operate o).2.bare = n.bare := by
  have hrecord : (n.record o).2.bare = n.bare := rfl
  rw [Node.operate]
  rcases hm : n.record o with ⟨_ | waiting, m⟩
  · rw [hm] at hrecord
    rw [← hrecord]
    cases o with
    | mounts => rfl
    | byPathLink device =>
      simp only [Node.respond]
      split <;> rfl
    | _ => cases h
  · rw [hm] at hrecord
    exact hrecord

end Node

/-! ## Runs -/

section

variable {α : Type}

/-- The steps of a run, each with its answer. -/
def steps (m : Host.Run α) (w : World) : List (Event Host.signature) :=
  m.run.events World.hostAnswer w

/-- A run ends at a step that fails, and leaves the host as that step does (`Stops`). -/
def StopsAtFailure (m : Host.Run α) (w : World) : Prop :=
  ∀ before o fault afterwards, steps m w = before ++ failed o fault :: afterwards →
    afterwards = [] ∧ (Fallible.runs World.hostAnswer m w).1 = .error fault ∧
      (Flow.replay World.hostAnswer before w).node.Stops o
        (Fallible.runs World.hostAnswer m w).2.node

/-- A run fails as a `Fault.IsRefusal`, or because it could not look. -/
def RefusesOrCannotLook (m : Host.Run α) (w : World) : Prop :=
  (∃ fault, fault.IsRefusal ∧ (Fallible.runs World.hostAnswer m w).1 = .error fault) ∨
    ∃ o fault, IsLook (.operate o) ∧ failed o fault ∈ steps m w

theorem not_refusal_of_failed {m : Flow Host.signature α} {w : World} (h : w.node.Spared)
    {o : Operation} {fault : Host.Fault} (hmem : failed o fault ∈ m.events World.hostAnswer w) :
    ¬fault.IsRefusal := by
  induction m generalizing w with
  | done a => cases hmem
  | ask action next ih =>
    cases action with
    | pause milliseconds =>
      rcases List.mem_cons.1 hmem with hfirst | hrest
      · cases hfirst
      · exact ih _ (w := { w with clock := w.clock + milliseconds }) h hrest
    | operate o' =>
      have hspares := h.operate o'
      rcases List.mem_cons.1 hmem with hfirst | hrest
      · obtain ⟨haction, hanswer⟩ := Event.mk.inj hfirst
        cases haction
        exact hspares.2 fault (eq_of_heq hanswer).symm
      · exact ih _ (w := { w with node := (w.node.operate o').2 }) hspares.1 hrest

theorem bare_replay_of_looks {trace : List (Event Host.signature)}
    (hlooks : ∀ e ∈ trace, IsLook e.action) (w : World) :
    (Flow.replay World.hostAnswer trace w).node.bare = w.node.bare := by
  induction trace generalizing w with
  | nil => rfl
  | cons e trace ih =>
    obtain ⟨hlook, hrest⟩ := List.forall_mem_cons.1 hlooks
    refine (ih hrest _).trans ?_
    obtain ⟨action, answer⟩ := e
    cases action with
    | pause milliseconds => cases hlook
    | operate o => exact Node.bare_operate_look hlook

/-- A flow that is `Cautious` leaves the host as it was unless it has acted. -/
theorem bare_of_cautious {m : Host.Run α} (hm : Cautious m) {w : World} (h : w.node.Spared)
    (hfails : RefusesOrCannotLook m w) :
    (Fallible.runs World.hostAnswer m w).2.node.bare = w.node.bare := by
  rcases hm _ _ (Flow.ends_events World.hostAnswer m.run w) with hlooks | ⟨hacts, hrefuses⟩
  · exact (congrArg (·.node.bare) (Flow.run_eq_replay m.run w)).trans (bare_replay_of_looks hlooks w)
  rcases hfails with ⟨fault, hrefusal, hfault⟩ | ⟨o, fault, hlook, hmem⟩
  · obtain ⟨o, hmem⟩ := hrefuses fault hfault hrefusal
    exact absurd hrefusal (not_refusal_of_failed h hmem)
  · exact absurd hlook (hacts o fault hmem)

theorem stopsAtFailure_of_failsFast {m : Host.Run α} (hm : FailsFast m) (w : World) :
    StopsAtFailure m w := by
  intro before o fault afterwards hsteps
  have hends := Flow.ends_events World.hostAnswer m.run w
  obtain ⟨rfl, hresult⟩ := hm _ _ hends before o fault afterwards hsteps
  refine ⟨rfl, hresult, ?_⟩
  have hanswer := Flow.answer_of_events hsteps
  have hleft : (Fallible.runs World.hostAnswer m w).2 =
      Flow.replay World.hostAnswer (before ++ [failed o fault]) w := by
    rw [← hsteps]
    exact Flow.run_eq_replay m.run w
  rw [hleft, Flow.replay_concat]
  exact Node.stops_operate (Prod.ext hanswer rfl)

/-- A flow that refuses before it asks for anything does not touch the world. -/
theorem untouched_of_refused {m : Host.Run α} {w : World} (h : w.node.Spared) {fault : Host.Fault}
    (hrefusal : fault.IsRefusal)
    (hm : ∀ trace, Fallible.Ends m trace (.error fault) →
      trace = [] ∨ ∃ o, failed o fault ∈ trace)
    (hfault : (Fallible.runs World.hostAnswer m w).1 = .error fault) :
    steps m w = [] ∧ (Fallible.runs World.hostAnswer m w).2 = w := by
  have hends := Flow.ends_events World.hostAnswer m.run w
  rw [show (m.run.run World.hostAnswer w).1 = .error fault from hfault] at hends
  rcases hm _ hends with hsteps | ⟨o, hmem⟩
  · refine ⟨hsteps, (Flow.run_eq_replay m.run w).trans ?_⟩
    rw [hsteps]
    rfl
  · exact absurd hrefusal (not_refusal_of_failed h hmem)

/-- **A refusal leaves the host as it was, and no step comes after one that fails** (`StopsAtFailure`). -/
theorem refusals_leave_untouched (w : World) (h : w.node.Spared) :
    (∀ directory device fsType options wait fault, fault.IsRefusal →
      (Fallible.runs World.hostAnswer (mountVolume directory device fsType options wait) w).1 =
          .error fault →
        steps (mountVolume directory device fsType options wait) w = [] ∧
          (Fallible.runs World.hostAnswer
            (mountVolume directory device fsType options wait) w).2 = w) ∧
    (∀ directory device options, RefusesOrCannotLook (mountExport directory device options) w →
      (Fallible.runs World.hostAnswer (mountExport directory device options) w).2.node.bare =
        w.node.bare) ∧
    (∀ directory, RefusesOrCannotLook (unmountVolume directory) w →
      (Fallible.runs World.hostAnswer (unmountVolume directory) w).2.node.bare = w.node.bare) ∧
    (∀ directory device fsType options wait,
      StopsAtFailure (mountVolume directory device fsType options wait) w) ∧
    ∀ directory, StopsAtFailure (unmountVolume directory) w := by
  refine ⟨?_, ?_, ?_, ?_, ?_⟩
  · intro directory device fsType options wait fault hrefusal hfault
    exact untouched_of_refused h hrefusal (fun trace => mountVolume_refused_at_once hrefusal) hfault
  · exact fun directory device options => bare_of_cautious (cautious_mountExport _ _ _) h
  · exact fun directory => bare_of_cautious (cautious_unmountVolume _) h
  · exact fun _ _ _ _ _ => stopsAtFailure_of_failsFast (failsFast_mountVolume _ _ _ _ _) w
  · exact fun _ => stopsAtFailure_of_failsFast (failsFast_unmountVolume _) w

end

/-- A host with a mount that no target is behind, on which the next login fails. -/
def localWorld : World :=
  World.failingHost
    { node := {
        directories := .ofList [("/mnt/a", ())]
        mounts := [⟨"/dev/sda1", "/mnt/a", "ext4"⟩] } }
    "login" (timedOut "iscsiadm")

/-- In `localWorld`, the mount is not undone, its device is not mounted, and a volume is not waited for when
    the login to its target has failed. -/
theorem refusals_localWorld :
    localWorld.node.Spared ∧
    (Fallible.runs World.hostAnswer (unmountVolume "/mnt/a") localWorld).1 =
      .error (.notIscsi "/dev/sda1" "/mnt/a") ∧
    (Fallible.runs World.hostAnswer (unmountVolume "/mnt/a") localWorld).2.node.bare =
      localWorld.node.bare ∧
    steps (mountVolume "/mnt/b" "/dev/sdb" "ext4" [] {}) localWorld = [] ∧
    ∃ before, steps (mountVolume "/mnt/a" sampleMount.source "ext4" [] {}) localWorld =
        before ++ [failed (.login sampleTarget) (timedOut "iscsiadm")] ∧
      (Flow.replay World.hostAnswer before localWorld).node.Stops (.login sampleTarget)
        (Fallible.runs World.hostAnswer
          (mountVolume "/mnt/a" sampleMount.source "ext4" [] {}) localWorld).2.node := by
  have spared : localWorld.node.Spared := by decide
  obtain ⟨hmount, -, hunmount, hstops, -⟩ := refusals_leave_untouched localWorld spared
  have notIscsi : (Fallible.runs World.hostAnswer (unmountVolume "/mnt/a") localWorld).1 =
      .error (.notIscsi "/dev/sda1" "/mnt/a") := by rfl
  have login : ∃ before, steps (mountVolume "/mnt/a" sampleMount.source "ext4" [] {}) localWorld =
      before ++ [failed (.login sampleTarget) (timedOut "iscsiadm")] :=
    ⟨[⟨Action.operate (.deviceOpened sampleMount.source), (.ok false : Except Host.Fault Bool)⟩,
      ⟨Action.operate (.addRecord sampleTarget), (.ok () : Except Host.Fault Unit)⟩,
      ⟨Action.operate (.setAutomaticLogin sampleTarget), (.ok () : Except Host.Fault Unit)⟩], by rfl⟩
  obtain ⟨before, hsteps⟩ := login
  refine ⟨spared, notIscsi, hunmount "/mnt/a" (.inl ⟨.notIscsi .., trivial, notIscsi⟩), ?_, before,
    hsteps, ?_⟩
  · exact (hmount "/mnt/b" "/dev/sdb" "ext4" [] {} _ (by trivial) rfl).1
  · exact (hstops "/mnt/a" sampleMount.source "ext4" [] {} before _ _ [] hsteps).2.2

end VolumeDriver.InMemory
