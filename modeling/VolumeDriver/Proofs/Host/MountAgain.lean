import VolumeDriver.Proofs.Host.MountReady
import VolumeDriver.Proofs.InMemory.Impending
set_option autoImplicit false

/-! # Mounting a volume once more

An attempt to mount a volume may fail at each of its operations, and each leaves something else behind
(`Node.OnTheWay`): a record, an automatic login, a session and a device, even a formatted device that is not
mounted. None of it is in the way of the next attempt, for all of it would be done again anyway: what has
been done before the mount is done to the host that is logged in to the target (`Node.loggedIn`), and the
device is not formatted a second time. -/

namespace VolumeDriver.InMemory

open Host

namespace Node

/-! ## The login is made once -/

theorem loggedIn_addRecord (n : Node) (target : IscsiTarget) :
    (n.after (.addRecord target)).loggedIn target = n.loggedIn target := by
  simp only [loggedIn, after, Dictionary.insert_insert]
  rfl

theorem loggedIn_setAutomaticLogin (n : Node) (target : IscsiTarget) :
    (n.after (.setAutomaticLogin target)).loggedIn target = n.loggedIn target := by
  simp only [loggedIn, after, Dictionary.insert_insert]
  rfl

theorem loggedIn_login (n : Node) (target : IscsiTarget) :
    (n.after (.login target)).loggedIn target = n.loggedIn target := by
  cases hdevices : n.withholdsDevices <;>
    simp [loggedIn, after, hdevices, Dictionary.insert_insert]

theorem loggedIn_loggedIn (n : Node) (target : IscsiTarget) :
    (n.loggedIn target).loggedIn target = n.loggedIn target :=
  (loggedIn_login _ target).trans
    ((loggedIn_setAutomaticLogin _ target).trans (loggedIn_addRecord n target))

theorem loggedIn_formatted (n : Node) (target : IscsiTarget) (device fsType : String) :
    (n.formatted device fsType).loggedIn target = (n.loggedIn target).formatted device fsType :=
  rfl

theorem bare_after (n : Node) (o : Operation) : (n.after o).bare = n.bare.after o := by
  cases o <;> rfl

end Node

section

variable {n m : Node} {w : World} {target : IscsiTarget} {directory device fsType : String}
  {options : List String} {wait : DeviceWait} {name : String} {fault : Host.Fault}

/-! ## What a failed attempt leaves behind -/

/-- The host `m` has come some way from `n` towards the mount of a device: no further than the login, or to
    the format of a device that was blank. -/
def Node.OnTheWay (n : Node) (device fsType : String) (wait : DeviceWait) (m : Node) : Prop :=
  m = n ∨ ∃ target, targetOf device = .ok target ∧
    (n.mounts.any fun e => e.source = device) = false ∧
    (m.loggedIn target = n.loggedIn target ∨
      1 ≤ wait.attempts ∧ (n.loggedIn target).Blank device ∧
        m.loggedIn target = (n.loggedIn target).formatted device fsType)

/-- An operation that neither mounts nor formats (`Node.ChangesMounts`). -/
theorem bears_spared {o : Operation} {leaves : Node → Prop} {passesOn : o.Value → Node → Prop}
    (hn : n.bare = n) (ho : ¬Node.ChangesMounts o) (hleaves : leaves n)
    (hok : ∀ value, n.plain.Brings o value → passesOn value (n.after o)) :
    Bears name fault (operate o) n leaves passesOn := by
  refine bears_operate (fun left hleft => ?_) fun value x hrun => ?_
  · rcases hleft with hleft | ⟨device, directory, fsType, options, rfl, _⟩
    · rwa [hleft, hn]
    · exact absurd trivial ho
  · have hafter := Node.bare_operate ho hrun
    rw [hn] at hafter
    rw [hafter]
    exact hok value (Node.effect_of_operate hrun).1

/-- In `lookForDevice` nothing changes. It is over when the device has been looked for and was there. -/
theorem bears_lookForDevice {leaves : Node → Prop} (hn : n.bare = n) (hleaves : leaves n)
    (interval : Nat) (exhausted : Host.Fault) (attempts : Nat) :
    Bears name fault (lookForDevice device interval exhausted attempts) n leaves
      fun _ x => x = n ∧ 1 ≤ attempts ∧ n.devices.contains device = true := by
  induction attempts with
  | zero => exact bears_throw hleaves
  | succ attempts ih =>
    have hlook : Bears name fault (operate (.deviceExists device)) n leaves
        fun found x => x = n ∧ found = n.devices.contains device :=
      bears_spared hn id hleaves fun found hfound => ⟨rfl, hfound⟩
    have hrest : Bears name fault (lookForDevice device interval exhausted attempts) n leaves
        fun _ x => x = n ∧ 1 ≤ attempts + 1 ∧ n.devices.contains device = true :=
      ih.imp fun _ x hx => ⟨hx.1, Nat.le_add_right_of_le hx.2.1, hx.2.2⟩
    refine hlook.bind fun found x hx => ?_
    obtain ⟨rfl, hfound⟩ := hx
    cases found with
    | true => exact bears_pure ⟨rfl, Nat.le_add_left 1 attempts, hfound.symm⟩
    | false =>
      by_cases hlast : attempts ≠ 0
      · simp only [if_pos hlast]
        have hpause : Bears name fault (liftM (pause interval) : Host.Run Unit) x leaves
            fun _ n' => n' = x :=
          bears_pause interval rfl
        exact hpause.bind fun _ n' hn' => hn' ▸ hrest
      · simp only [if_neg hlast]
        exact hrest

/-- Up to the login, all that `bringDevice` leaves behind is what the login does again. -/
theorem bears_bringDevice {leaves : Node → Prop} (hn : n.bare = n)
    (hleaves : ∀ m, m.loggedIn target = n.loggedIn target → leaves m) :
    Bears name fault (bringDevice target device wait) n leaves
      fun _ x => x = n.loggedIn target ∧ 1 ≤ wait.attempts ∧
        (n.loggedIn target).devices.contains device = true := by
  have hstep : ∀ o m, m.bare = m → ¬Node.ChangesMounts o → m.loggedIn target = n.loggedIn target →
      Bears name fault (operate o) m leaves fun _ x => x = m.after o :=
    fun o m hm ho hsame => bears_spared hm ho (hleaves m hsame) fun _ _ => rfl
  refine (hstep (.addRecord target) n hn id rfl).bind fun _ m hm => ?_
  have hm₁ : m.bare = m := by rw [hm, Node.bare_after, hn]
  have hsame₁ : m.loggedIn target = n.loggedIn target := by rw [hm, Node.loggedIn_addRecord]
  refine (hstep (.setAutomaticLogin target) m hm₁ id hsame₁).bind fun _ m' hm' => ?_
  have hm₂ : m'.bare = m' := by rw [hm', Node.bare_after, hm₁]
  have hsame₂ : m'.loggedIn target = n.loggedIn target := by
    rw [hm', Node.loggedIn_setAutomaticLogin, hsame₁]
  refine (hstep (.login target) m' hm₂ id hsame₂).bind fun _ x hx => ?_
  have hx' : x = n.loggedIn target := by rw [hx, hm', hm, Node.loggedIn]
  have hm₃ : x.bare = x := by rw [hx, Node.bare_after, hm₂]
  subst hx'
  exact bears_lookForDevice hm₃ (hleaves _ (n.loggedIn_loggedIn target)) _ _ _

variable (directory device fsType options wait name fault) in
/-- **What a `mountVolume` that fails leaves behind** is a host that is `Node.OnTheWay`. -/
theorem bears_mountVolume (hn : n.bare = n) :
    Bears name fault (mountVolume directory device fsType options wait) n
      (n.OnTheWay device fsType wait) fun _ _ => True := by
  rw [mountVolume_eq]
  have hread : Bears name fault (.ofExcept (targetOf device)) n (n.OnTheWay device fsType wait)
      fun target x => x = n ∧ targetOf device = .ok target :=
    bears_ofExcept (.inl rfl) fun target htarget => ⟨rfl, htarget⟩
  refine hread.bind fun target x hx => ?_
  obtain ⟨rfl, htarget⟩ := hx
  have hopened : Bears name fault (operate (.deviceOpened device)) x (x.OnTheWay device fsType wait)
      fun opened n' => n' = x ∧ opened = x.mounts.any fun e => e.source = device :=
    bears_spared hn id (.inl rfl) fun opened hvalue => ⟨rfl, hvalue⟩
  refine hopened.bind fun opened n' hn' => ?_
  obtain ⟨rfl, closed⟩ := hn'
  cases opened with
  | true => exact bears_pure trivial
  | false =>
    have hlogin : ∀ m, m.loggedIn target = n'.loggedIn target → n'.OnTheWay device fsType wait m :=
      fun m hm => .inr ⟨target, htarget, closed.symm, .inl hm⟩
    refine (bears_bringDevice hn hlogin).bind fun _ y hy => ?_
    obtain ⟨rfl, hattempts, present⟩ := hy
    have hformat : Bears name fault (operate (.formatAndMount device directory fsType options))
        (n'.loggedIn target) (n'.OnTheWay device fsType wait) fun _ _ => True := by
      refine bears_operate (fun left hleft => ?_) fun _ _ _ => trivial
      have hbare : (n'.loggedIn target).bare = n'.loggedIn target := congrArg (Node.loggedIn · target) hn
      rcases hleft with hleft | ⟨_, _, _, _, ho, blank, hleft⟩
      · rw [hleft, hbare]
        exact hlogin _ (n'.loggedIn_loggedIn target)
      · cases ho
        refine .inr ⟨target, htarget, closed.symm, .inr ⟨hattempts, blank, ?_⟩⟩
        have hformatted : left.bare = (n'.loggedIn target).formatted device fsType :=
          hleft.trans (congrArg (Node.formatted · device fsType) hbare)
        rw [hformatted, Node.loggedIn_formatted, Node.loggedIn_loggedIn]
    exact hformat.bind fun _ _ _ => bears_pure trivial

/-! ## What the next attempt makes of it -/

/-- The part of `mountVolume` after the login. -/
def mountDevice (directory device fsType : String) (options : List String) (wait : DeviceWait) :
    Host.Run MountOutcome := do
  waitForDevice device wait
  operate (.formatAndMount device directory fsType options)
  return .mounted

/-- An operation that is `Node.Ready` has its effect on the host without its records. -/
theorem Node.operate_ok_bare {o : Operation} (h : n.Calm) (ready : n.Ready o)
    (ho : ¬Node.ChangesMounts o) :
    ∃ value x, n.operate o = (.ok value, x) ∧ x.Calm ∧ n.plain.Brings o value ∧
      x.bare = n.bare.after o := by
  obtain ⟨value, x, hrun, hcalm, hbrings, _⟩ := Node.operate_ok h ready
  exact ⟨value, x, hrun, hcalm, hbrings, Node.bare_operate ho hrun⟩

/-- A `mountVolume` of a device that is mounted nowhere comes to what `mountDevice` comes to on the host
    that is logged in to its target. -/
theorem mountVolume_alike (h : w.node.Calm) (htarget : targetOf device = .ok target)
    (closed : (w.node.mounts.any fun e => e.source = device) = false) :
    Alike (Fallible.runs World.hostAnswer (mountVolume directory device fsType options wait) w)
      (Fallible.runs World.hostAnswer (mountDevice directory device fsType options wait)
        { w with node := w.node.loggedIn target }) := by
  obtain ⟨opened, n₁, hopened, hcalm₁, hvalue, h₁⟩ :=
    Node.operate_ok_bare (o := .deviceOpened device) h trivial id
  obtain rfl : opened = false := hvalue.trans closed
  obtain ⟨_, n₂, hrecord, hcalm₂, _, h₂⟩ :=
    Node.operate_ok_bare (o := .addRecord target) hcalm₁ trivial id
  have hknown : n₂.records.contains target.iqn = true := by
    rw [show n₂.records = n₁.records.insert target.iqn () from congrArg Node.records h₂]
    exact (Dictionary.contains_insert_iff ..).2 (.inl rfl)
  obtain ⟨_, n₃, hautomatic, hcalm₃, _, h₃⟩ :=
    Node.operate_ok_bare (o := .setAutomaticLogin target) hcalm₂ hknown id
  obtain ⟨_, n₄, hlogin, hcalm₄, _, h₄⟩ :=
    Node.operate_ok_bare (o := .login target) hcalm₃ trivial id
  have hbare : n₄.bare = (w.node.loggedIn target).bare := by
    rw [h₄, h₃, h₂, h₁]
    rfl
  have hrun : Fallible.runs World.hostAnswer (mountVolume directory device fsType options wait) w =
      Fallible.runs World.hostAnswer (mountDevice directory device fsType options wait)
        { w with node := n₄ } := by
    refine (Fallible.runs_bind_ok (by rw [Fallible.runs_ofExcept, htarget])).trans ?_
    refine (runs_operate_ok hopened).trans ?_
    refine (runs_operate_ok (w := { w with node := n₁ }) hrecord).trans ?_
    refine (runs_operate_ok (w := { w with node := n₂ }) hautomatic).trans ?_
    exact runs_operate_ok (w := { w with node := n₃ }) hlogin
  rw [hrun]
  exact run_alike _ (v := { w with node := n₄ }) (w := { w with node := w.node.loggedIn target })
    hcalm₄ h hbare

/-- Formatting and mounting sees nothing of a host but what `Node.format` makes of it. -/
theorem Node.respond_formatAndMount (h : m.format device fsType = n.format device fsType)
    (directory : String) (options : List String) :
    m.respond (.formatAndMount device directory fsType options) =
      n.respond (.formatAndMount device directory fsType options) := by
  simp only [Node.respond, h]

/-- To format a device that is `Node.Blank` and mount it is to mount the device that has been formatted. -/
theorem Node.operate_formatted (h : n.Calm) (blank : n.Blank device) (directory : String)
    (options : List String) :
    (n.formatted device fsType).operate (.formatAndMount device directory fsType options) =
      n.operate (.formatAndMount device directory fsType options) := by
  obtain ⟨present, content⟩ := blank
  rw [Node.operate_calm h, Node.operate_calm (n := n.formatted device fsType) h]
  refine Node.respond_formatAndMount ?_ directory options
  simp [Node.format, Node.formatted, Node.noted, present, content]

theorem runs_operate_congr {α : Type} {o : Operation} {f : o.Value → Host.Run α}
    (h : m.operate o = n.operate o) :
    Fallible.runs World.hostAnswer (operate o >>= f) { w with node := m } =
      Fallible.runs World.hostAnswer (operate o >>= f) { w with node := n } := by
  rw [Fallible.runs_bind, Fallible.runs_bind, runs_operate, runs_operate, h]

/-- A device that is there is found by `waitForDevice` at the first look. -/
theorem runs_waitForDevice_noted (h : n.Calm) (present : n.devices.contains device = true)
    (hattempts : 1 ≤ wait.attempts) :
    Fallible.runs World.hostAnswer (waitForDevice device wait) { w with node := n } =
      (.ok (), { w with node := n.noted (.deviceExists device) }) := by
  obtain ⟨attempts, hattempts⟩ := Nat.exists_eq_add_of_le' hattempts
  have hlook : n.operate (.deviceExists device) = (.ok true, n.noted (.deviceExists device)) := by
    rw [Node.operate_calm h, Node.respond, ← present]
    rfl
  rw [waitForDevice, hattempts]
  exact runs_operate_ok (w := { w with node := n }) hlook

variable (directory fsType options w) in
/-- It does not matter to `mountDevice` whether a blank device has been formatted before. -/
theorem mountDevice_formatted (h : n.Calm) (blank : n.Blank device)
    (hattempts : 1 ≤ wait.attempts) :
    Fallible.runs World.hostAnswer (mountDevice directory device fsType options wait)
        { w with node := n.formatted device fsType } =
      Fallible.runs World.hostAnswer (mountDevice directory device fsType options wait)
        { w with node := n } := by
  have hformatted := runs_waitForDevice_noted (w := w) (n := n.formatted device fsType) h blank.1
    hattempts
  have hblank := runs_waitForDevice_noted (w := w) h blank.1 hattempts
  refine (Fallible.runs_bind_ok hformatted).trans (.trans ?_ (Fallible.runs_bind_ok hblank).symm)
  exact runs_operate_congr (Node.operate_formatted (n := n.noted (.deviceExists device)) h blank
    directory options)

/-- The next attempt on a host that is `Node.OnTheWay` comes to the same as one on the host there was. -/
theorem mountVolume_onTheWay {v : World} (hv : v.node.Calm) (hw : w.node.Calm)
    (hway : w.node.bare.OnTheWay device fsType wait v.node.bare) :
    Alike (Fallible.runs World.hostAnswer (mountVolume directory device fsType options wait) v)
      (Fallible.runs World.hostAnswer (mountVolume directory device fsType options wait) w) := by
  obtain hbare | ⟨target, htarget, closed, hway⟩ := hway
  · exact run_alike _ hv hw hbare
  have hmounts : v.node.mounts = w.node.mounts := by
    rcases hway with hsame | ⟨_, _, hformatted⟩
    · exact (congrArg Node.mounts hsame :)
    · exact (congrArg Node.mounts hformatted :)
  have closed' : (v.node.mounts.any fun e => e.source = device) = false := hmounts ▸ closed
  refine (mountVolume_alike hv htarget closed').trans
    (.trans ?_ (mountVolume_alike hw htarget closed).symm)
  rcases hway with hsame | ⟨hattempts, blank, hformatted⟩
  · exact run_alike _ (v := { v with node := v.node.loggedIn target })
      (w := { w with node := w.node.loggedIn target }) hv hw hsame
  · have hblank : (w.node.loggedIn target).Blank device := blank
    have hsame := mountDevice_formatted w directory fsType options (n := w.node.loggedIn target) hw
      hblank hattempts
    rw [← hsame]
    exact run_alike _ (v := { v with node := v.node.loggedIn target })
      (w := { w with node := (w.node.loggedIn target).formatted device fsType }) hv hw hformatted

/-- **Mounting a volume once more.** Let one fault come over the host at any `moment` of a `mountVolume`,
    and let the attempt fail with no fault waiting any more. The next attempt then comes to the same value
    or the same fault as an attempt on the host there was in the beginning, and leaves the same host behind
    but for the records (`Node.bare`). So the device is formatted no more often than it would have been
    without the fault. -/
theorem mountVolume_again (h : w.node.Calm) (moment : Nat) {refusal : Host.Fault} {left : Impending}
    (attempt : Fallible.runs (Impending.answer name fault)
      (mountVolume directory device fsType options wait) ⟨w, some moment⟩ = (.error refusal, left))
    (met : left.world.node.Calm) :
    let again := Fallible.runs World.hostAnswer (mountVolume directory device fsType options wait)
      left.world
    let once := Fallible.runs World.hostAnswer (mountVolume directory device fsType options wait) w
    again.1 = once.1 ∧ again.2.node.bare = once.2.node.bare := by
  have hpending : Impending.Pending name fault w.node.bare ⟨w, some moment⟩ :=
    ⟨w.node, h, rfl, .inl ⟨nofun, rfl⟩⟩
  have hleft := bears_mountVolume directory device fsType options wait name fault w.node.bare_bare _
    hpending
  rw [attempt] at hleft
  exact mountVolume_onTheWay met h (hleft met)

end

/-- What a fault of the mount after the format leaves behind. -/
def leftByMount : Impending :=
  (Fallible.runs (Impending.answer "mount" (timedOut "mount"))
    (mountVolume "/mnt/a" sampleMount.source "ext4" [] {}) ⟨emptyWorld, some 0⟩).2

/-- In `leftByMount`, the device has been formatted and is not mounted. The next attempt mounts it and does
    not format it again. -/
theorem mountVolume_again_emptyWorld :
    emptyWorld.node.Calm ∧
    Fallible.runs (Impending.answer "mount" (timedOut "mount"))
      (mountVolume "/mnt/a" sampleMount.source "ext4" [] {}) ⟨emptyWorld, some 0⟩ =
        (.error (timedOut "mount"), leftByMount) ∧
    leftByMount.world.node.Calm ∧ leftByMount.world.node.formats = 1 ∧
    leftByMount.world.node.mounts = [] ∧
    let again := Fallible.runs World.hostAnswer
      (mountVolume "/mnt/a" sampleMount.source "ext4" [] {}) leftByMount.world
    let once := Fallible.runs World.hostAnswer
      (mountVolume "/mnt/a" sampleMount.source "ext4" [] {}) emptyWorld
    again.1 = once.1 ∧ again.2.node.bare = once.2.node.bare ∧ once.2.node.formats = 1 ∧
      once.2.node.mounts = [sampleMount] := by
  have calm : emptyWorld.node.Calm := by decide
  have attempt : Fallible.runs (Impending.answer "mount" (timedOut "mount"))
      (mountVolume "/mnt/a" sampleMount.source "ext4" [] {}) ⟨emptyWorld, some 0⟩ =
        (.error (timedOut "mount"), leftByMount) :=
    Fallible.runs_of_fault? (by decide +kernel)
  have met : leftByMount.world.node.Calm := by decide +kernel
  obtain ⟨hvalue, hbare⟩ := mountVolume_again calm 0 attempt met
  exact ⟨calm, attempt, met, by decide +kernel, by decide +kernel, hvalue, hbare, by decide +kernel,
    by decide +kernel⟩

end VolumeDriver.InMemory
