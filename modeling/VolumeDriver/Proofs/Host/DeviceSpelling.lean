import VolumeDriver.Proofs.Host.MountAgain
set_option autoImplicit false

/-! # One device, many names

The path of a target's device is read more loosely than it is written: the directory may be left out, and
the numbers may have a plus sign and zeros in front of them (`IscsiTarget.Spelling`). All of these names are
accepted for the target, and for each of them the host logs in to it. But the device appears under the one
path that is written for it, and the host looks for the name that it was given: only by that path is a
volume mounted, and by any other name the login is made and the wait for the device is in vain. -/

namespace VolumeDriver

namespace IscsiTarget

variable (t : IscsiTarget) {device : String}

/-- A target's `devicePath` is a name of its device, or that name with the directory put in front, just
    where neither number has anything in front of it. -/
theorem devicePath_eq_spelt_iff (x : Spelling) :
    (t.devicePath = t.spelt x ∨ t.devicePath = directory ++ t.spelt x) ↔
      x.port = .plain ∧ x.lun = .plain := by
  have hname : t.devicePath = directory ++ t.spelt ⟨false, .plain, .plain⟩ := by
    rw [devicePath, deviceName_eq]
    rfl
  have hwhole : t.devicePath = t.spelt x ↔ x = ⟨true, .plain, .plain⟩ := by
    rw [devicePath_eq, spelt_inj, eq_comm]
    rfl
  have hpart : t.devicePath = directory ++ t.spelt x ↔ x = ⟨false, .plain, .plain⟩ := by
    rw [hname, String.append_right_inj, spelt_inj, eq_comm]
  rw [hwhole, hpart]
  obtain ⟨inDirectory, port, lun⟩ := x
  cases inDirectory <;> simp

end IscsiTarget

namespace InMemory

open Host

/-- Nothing but the device is missing for a mount: it would come with a login, it holds no file system of
    another type, and there is a directory to mount it at. -/
structure Node.Prepared (n : Node) (device directory fsType : String) : Prop where
  calm : n.Calm
  closed : (n.mounts.any fun e => e.source = device) = false
  absent : n.devices.contains device = false
  brings : n.withholdsDevices = false
  known : n.directories.contains directory = true
  same : ∀ existing, n.fileSystems.get? device = some existing → existing = fsType

section

variable {w : World} {target : IscsiTarget} {device directory fsType : String} {options : List String}
  {wait : DeviceWait}

/-- The device of a target is what `Node.loggedIn` adds to those that there are. -/
theorem Node.devices_loggedIn_eq_false (h : w.node.devices.contains device = false)
    (hdevices : w.node.withholdsDevices = false) (hne : device ≠ target.devicePath) :
    (w.node.loggedIn target).devices.contains device = false := by
  rw [Node.devices_loggedIn target hdevices, Bool.eq_false_iff]
  intro hmem
  rcases (Dictionary.contains_insert_iff ..).1 hmem with heq | hmem
  · exact hne heq
  · rw [h] at hmem
    cases hmem

/-- All looks of `lookForDevice` for a device that is not there are in vain. -/
theorem runs_lookForDevice_absent (h : w.node.Calm)
    (absent : w.node.devices.contains device = false) (interval : Nat) (exhausted : Host.Fault)
    (attempts : Nat) :
    ∃ w', Fallible.runs World.hostAnswer (lookForDevice device interval exhausted attempts) w =
        (.error exhausted, w') ∧
      w'.node.plain = w.node.plain := by
  induction attempts generalizing w with
  | zero => exact ⟨w, rfl, rfl⟩
  | succ attempts ih =>
    obtain ⟨found, n, hlook, hcalm, hfound, hplain⟩ :=
      Node.operate_ok (o := .deviceExists device) h trivial
    obtain rfl : found = false := hfound.trans absent
    have absent' : n.devices.contains device = false := by
      rw [show n.devices = w.node.devices from (congrArg Node.devices hplain :)]
      exact absent
    rw [lookForDevice]
    by_cases hlast : attempts ≠ 0
    · -- The pause before the next look only takes time.
      obtain ⟨w', hrun, hplain'⟩ :=
        ih (w := { w with node := n, clock := w.clock + interval }) hcalm absent'
      refine ⟨w', ?_, hplain'.trans hplain⟩
      refine (runs_operate_ok hlook).trans ?_
      simp only [if_pos hlast]
      exact hrun
    · obtain ⟨w', hrun, hplain'⟩ := ih (w := { w with node := n }) hcalm absent'
      refine ⟨w', ?_, hplain'.trans hplain⟩
      refine (runs_operate_ok hlook).trans ?_
      simp only [if_neg hlast]
      exact hrun

/-- A `mountVolume` by a name that is not the `devicePath` of the target logs in to the target, and then
    waits in vain. -/
theorem mountVolume_missing (options : List String) (wait : DeviceWait)
    (h : w.node.Prepared device directory fsType) (htarget : IscsiTarget.ofDevicePath device = .ok target)
    (hne : device ≠ target.devicePath) :
    ∃ w', Fallible.runs World.hostAnswer (mountVolume directory device fsType options wait) w =
        (.error (.deviceMissing device wait.attempts), w') ∧
      w'.node.plain = w.node.plain.loggedIn target := by
  have hread : targetOf device = .ok target := by
    rw [targetOf, htarget]
  have absent := Node.devices_loggedIn_eq_false h.absent h.brings hne
  obtain ⟨v, hwait, hplain⟩ := runs_lookForDevice_absent
    (w := { w with node := w.node.loggedIn target }) h.calm absent wait.interval
    (.deviceMissing device wait.attempts) wait.attempts
  have hrest : Fallible.runs World.hostAnswer (mountDevice directory device fsType options wait)
      { w with node := w.node.loggedIn target } =
        (.error (.deviceMissing device wait.attempts), v) :=
    Fallible.runs_bind_error hwait
  have halike : Alike
      (Fallible.runs World.hostAnswer (mountVolume directory device fsType options wait) w)
      (.error (.deviceMissing device wait.attempts), v) :=
    hrest ▸ mountVolume_alike h.calm hread h.closed
  rcases hrun : Fallible.runs World.hostAnswer (mountVolume directory device fsType options wait) w
    with ⟨result, w'⟩
  rw [hrun] at halike
  obtain ⟨hresult, hnode⟩ := halike
  refine ⟨w', Prod.ext hresult rfl, ?_⟩
  exact (congrArg Node.plain hnode :).trans hplain

/-- **A volume is mounted by one of the names of its device only.** The names that
    `IscsiTarget.ofDevicePath` accepts for a target are the spellings of its device (`IscsiTarget.spelt`),
    and no two spellings are one name. What is written for the target is the name that was accepted, with
    the directory or without it, just where neither number has anything in front of it. And where a host is
    `Node.Prepared` for a mount, it logs in to the target by all of these names alike, but only finds the
    device if the name is the `devicePath` that is written. -/
theorem mount_by_device_spelling (target : IscsiTarget) :
    (∀ device, IscsiTarget.ofDevicePath device = .ok target ↔
      target.iqn ≠ "" ∧ ∃ x, device = target.spelt x) ∧
    (∀ x y, target.spelt x = target.spelt y ↔ x = y) ∧
    (∀ x, (target.devicePath = target.spelt x ∨
        target.devicePath = IscsiTarget.directory ++ target.spelt x) ↔
      x.port = .plain ∧ x.lun = .plain) ∧
    (∀ device, IscsiTarget.ofDevicePath device = .ok target →
      ∀ (w : World) (directory fsType : String) (options : List String) (wait : DeviceWait),
        w.node.Prepared device directory fsType → 1 ≤ wait.attempts →
        ∃ w', Fallible.runs World.hostAnswer (mountVolume directory device fsType options wait) w =
            (if device = target.devicePath then .ok .mounted
              else .error (.deviceMissing device wait.attempts), w') ∧
          w'.node.plain =
            if device = target.devicePath then
              (w.node.plain.loggedIn target).mounting device directory fsType
            else w.node.plain.loggedIn target) := by
  refine ⟨fun device => IscsiTarget.ofDevicePath_eq_ok_iff, fun x y => IscsiTarget.spelt_inj,
    target.devicePath_eq_spelt_iff, ?_⟩
  intro device hread w directory fsType options wait h hattempts
  by_cases hdevice : device = target.devicePath
  · subst hdevice
    rw [if_pos rfl, if_pos rfl]
    exact mountVolume_ready options h.calm (IscsiTarget.iqn_ne_empty hread) h.closed h.known h.same
      h.brings hattempts
  · rw [if_neg hdevice, if_neg hdevice]
    exact mountVolume_missing options wait h hread hdevice

end

/-- The path of a device with a zero in front of the port. -/
def zeroPortPath : String :=
  "/dev/disk/by-path/ip-10.0.0.2:03260-iscsi-iqn.2015-12.com.oracleiaas:a-lun-1"

/-- The name `zeroPortPath` is accepted and the login made, but the mount fails. -/
theorem mount_by_device_spelling_zero :
    IscsiTarget.ofDevicePath zeroPortPath = .ok sampleTarget ∧
    emptyWorld.node.Prepared zeroPortPath "/mnt/a" "ext4" ∧
    ∃ w', Fallible.runs World.hostAnswer (mountVolume "/mnt/a" zeroPortPath "ext4" [] {}) emptyWorld =
        (.error (.deviceMissing zeroPortPath 20), w') ∧
      w'.node.sessions.contains sampleTarget.iqn = true := by
  have hread : IscsiTarget.ofDevicePath zeroPortPath = .ok sampleTarget := rfl
  have prepared : emptyWorld.node.Prepared zeroPortPath "/mnt/a" "ext4" :=
    ⟨by decide, rfl, rfl, rfl, by decide, nofun⟩
  have hpath : zeroPortPath ≠ sampleTarget.devicePath := by
    decide +kernel
  obtain ⟨w', hrun, hplain⟩ := (mount_by_device_spelling sampleTarget).2.2.2 zeroPortPath hread
    emptyWorld "/mnt/a" "ext4" [] {} prepared (by decide)
  rw [if_neg hpath] at hrun hplain
  refine ⟨hread, prepared, w', hrun, ?_⟩
  have hsessions : w'.node.sessions = emptyWorld.node.sessions.insert sampleTarget.iqn () :=
    (congrArg Node.sessions hplain :)
  rw [hsessions]
  decide

/-- Two names without the directory are accepted by `IscsiTarget.ofDevicePath` for one target although they
    differ, and what is written for the target is not the first of them, with the directory or without. By
    the second one, which it is but for the directory, the device is not found either. -/
theorem ofDevicePath_zeros :
    IscsiTarget.ofDevicePath "ip-10.0.0.2:03260-iscsi-iqn.2015-12.com.oracleiaas:a-lun-1" =
      .ok sampleTarget ∧
    IscsiTarget.ofDevicePath "ip-10.0.0.2:3260-iscsi-iqn.2015-12.com.oracleiaas:a-lun-1" =
      .ok sampleTarget ∧
    sampleTarget.devicePath ≠ "ip-10.0.0.2:03260-iscsi-iqn.2015-12.com.oracleiaas:a-lun-1" ∧
    sampleTarget.devicePath ≠ IscsiTarget.directory ++
      "ip-10.0.0.2:03260-iscsi-iqn.2015-12.com.oracleiaas:a-lun-1" ∧
    ∃ w', Fallible.runs World.hostAnswer (mountVolume "/mnt/a"
        "ip-10.0.0.2:3260-iscsi-iqn.2015-12.com.oracleiaas:a-lun-1" "ext4" [] {}) emptyWorld =
      (.error (.deviceMissing "ip-10.0.0.2:3260-iscsi-iqn.2015-12.com.oracleiaas:a-lun-1" 20), w') :=
  ⟨rfl, rfl, by decide +kernel, by decide +kernel, _, Fallible.runs_of_fault? (by decide +kernel)⟩

end InMemory

end VolumeDriver
