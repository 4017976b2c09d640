import VolumeDriver.Proofs.Host.ExportAddress
import VolumeDriver.Proofs.Host.IscsiTarget
import VolumeDriver.Proofs.Host.Mount
import VolumeDriver.Proofs.InMemory.Sides
set_option autoImplicit false

/-! # When a mount succeeds

Where nothing is made to fail (`Node.Calm`), a mount takes no more than a directory to mount at and, for a
volume, a device that holds no file system of another type; the device itself comes with the login. -/

namespace VolumeDriver.InMemory

open Host

/-- The host that is logged in to a target, now and whenever it starts. -/
def Node.loggedIn (n : Node) (target : IscsiTarget) : Node :=
  ((n.after (.addRecord target)).after (.setAutomaticLogin target)).after (.login target)

theorem Node.devices_loggedIn {n : Node} (target : IscsiTarget) (h : n.withholdsDevices = false) :
    (n.loggedIn target).devices = n.devices.insert target.devicePath () := by
  simp [loggedIn, after, h]

section

variable {w : World} {target : IscsiTarget} {wait : DeviceWait} {directory fsType : String}

/-- The first look of `waitForDevice` finds a device that is there. -/
theorem runs_waitForDevice {device : String} (h : w.node.Calm)
    (present : w.node.devices.contains device = true) (hattempts : 1 ≤ wait.attempts) :
    ∃ w', Fallible.runs World.hostAnswer (waitForDevice device wait) w = (.ok (), w') ∧
      w'.node.plain = w.node.plain := by
  obtain ⟨n, hn⟩ : ∃ n, wait.attempts = n + 1 := ⟨_, (Nat.sub_add_cancel hattempts).symm⟩
  obtain ⟨found, m, hlook, _, hfound, hplain⟩ := Node.operate_ok (o := .deviceExists device) h trivial
  have htrue : found = true := hfound.trans present
  subst htrue
  refine ⟨{ w with node := m }, ?_, hplain⟩
  rw [waitForDevice, hn]
  exact runs_operate_ok hlook

variable (target) in
/-- The device of a target is there after `bringDevice`. -/
theorem runs_bringDevice (h : w.node.Calm) (hdevices : w.node.withholdsDevices = false)
    (hattempts : 1 ≤ wait.attempts) :
    ∃ w', Fallible.runs World.hostAnswer (bringDevice target target.devicePath wait) w =
        (.ok (), w') ∧
      w'.node.plain = w.node.plain.loggedIn target ∧
      w'.node.devices.contains target.devicePath = true := by
  obtain ⟨_, n₁, hrecord, hcalm₁, _, h₁⟩ := Node.operate_ok (o := .addRecord target) h trivial
  have hknown : n₁.records.contains target.iqn = true := by
    rw [show n₁.records = w.node.records.insert target.iqn () from congrArg Node.records h₁]
    exact (Dictionary.contains_insert_iff ..).2 (.inl rfl)
  obtain ⟨_, n₂, hautomatic, hcalm₂, _, h₂⟩ :=
    Node.operate_ok (o := .setAutomaticLogin target) hcalm₁ hknown
  obtain ⟨_, n₃, hlogin, hcalm₃, _, h₃⟩ := Node.operate_ok (o := .login target) hcalm₂ trivial
  have hplain : n₃.plain = w.node.plain.loggedIn target := by
    rw [h₃, h₂, h₁]
    rfl
  have hpresent : n₃.devices.contains target.devicePath = true := by
    have hinserted : n₃.devices = w.node.devices.insert target.devicePath () :=
      (congrArg Node.devices hplain :).trans (Node.devices_loggedIn target hdevices)
    rw [hinserted]
    exact (Dictionary.contains_insert_iff ..).2 (.inl rfl)
  obtain ⟨w', hwait, hplain'⟩ := runs_waitForDevice (w := { w with node := n₃ }) hcalm₃ hpresent
    hattempts
  refine ⟨w', ?_, hplain'.trans hplain, ?_⟩
  · refine (runs_operate_ok hrecord).trans ?_
    refine (runs_operate_ok (w := { w with node := n₁ }) hautomatic).trans ?_
    exact (runs_operate_ok (w := { w with node := n₂ }) hlogin).trans hwait
  · rw [show w'.node.devices = n₃.devices from (congrArg Node.devices hplain' :)]
    exact hpresent

/-- **When a `mountVolume` succeeds.** A device that is mounted nowhere and holds no file system of another
    type is mounted. -/
theorem mountVolume_ready (options : List String) (h : w.node.Calm) (hiqn : target.iqn ≠ "")
    (closed : (w.node.mounts.any fun e => e.source = target.devicePath) = false)
    (known : w.node.directories.contains directory = true)
    (same : ∀ existing, w.node.fileSystems.get? target.devicePath = some existing →
      existing = fsType)
    (hdevices : w.node.withholdsDevices = false) (hattempts : 1 ≤ wait.attempts) :
    ∃ w', Fallible.runs World.hostAnswer
        (mountVolume directory target.devicePath fsType options wait) w = (.ok .mounted, w') ∧
      w'.node.plain =
        (w.node.plain.loggedIn target).mounting target.devicePath directory fsType := by
  -- No mount is there to be left alone,
  obtain ⟨opened, n₁, hopened, hcalm₁, hvalue, h₁⟩ :=
    Node.operate_ok (o := .deviceOpened target.devicePath) h trivial
  have hfalse : opened = false := hvalue.trans closed
  subst hfalse
  have hdevices₁ : n₁.withholdsDevices = false :=
    (congrArg Node.withholdsDevices h₁ :).trans hdevices
  -- the device is brought about,
  obtain ⟨w₂, hbring, h₂, present⟩ := runs_bringDevice (w := { w with node := n₁ }) target
    hcalm₁ hdevices₁ hattempts
  have hcalm₂ := calm_of_runs (w := { w with node := n₁ }) hcalm₁ hbring
  obtain ⟨_, hdirectories, hfileSystems⟩ := layout_bringDevice hbring
  have hunformatted : n₁.fileSystems = w.node.fileSystems := by
    have hspared := w.node.fileSystems_operate (o := .deviceOpened target.devicePath) nofun
    rwa [hopened] at hspared
  -- and on the way nothing has happened to the directory or to what the device holds.
  have hready : w₂.node.Ready (.formatAndMount target.devicePath directory fsType options) := by
    refine ⟨present, ?_, ?_⟩
    · rw [hdirectories, show n₁.directories = w.node.directories from (congrArg Node.directories h₁ :)]
      exact known
    · rw [hfileSystems, hunformatted]
      exact same
  obtain ⟨_, n₃, hmount, _, _, h₃⟩ := Node.operate_ok hcalm₂ hready
  refine ⟨{ w₂ with node := n₃ }, ?_, ?_⟩
  · have htarget : targetOf target.devicePath = .ok target := by
      rw [targetOf, IscsiTarget.ofDevicePath_devicePath hiqn]
    rw [mountVolume_eq]
    refine (Fallible.runs_bind_ok (by rw [Fallible.runs_ofExcept, htarget])).trans ?_
    refine (runs_operate_ok hopened).trans ((Fallible.runs_bind_ok hbring).trans ?_)
    exact runs_operate_ok hmount
  · rw [h₃, h₂, h₁]
    rfl

/-- **When a `mountExport` succeeds.** Where nothing is on top at a directory that there is, an export is
    mounted. -/
theorem mountExport_ready {device address : String} (options : List String) (h : w.node.Calm)
    (haddress : exportAddress device = .ok address)
    (free : MountTable.top? w.node.mounts directory = none)
    (known : w.node.directories.contains directory = true) :
    ∃ w', Fallible.runs World.hostAnswer (mountExport directory device options) w =
        (.ok .mounted, w') ∧
      w'.node.plain = w.node.plain.mounting (address ++ ":" ++ device) directory nfsType := by
  obtain ⟨table, n₁, hmounts, hcalm₁, htable, h₁⟩ := Node.operate_ok (o := .mounts) h trivial
  have hknown : n₁.directories.contains directory = true := by
    rw [show n₁.directories = w.node.directories from (congrArg Node.directories h₁ :)]
    exact known
  obtain ⟨_, n₂, hmount, _, _, h₂⟩ :=
    Node.operate_ok (o := .mount (address ++ ":" ++ device) directory nfsType options) hcalm₁ hknown
  refine ⟨{ w with node := n₂ }, ?_, ?_⟩
  · refine (Fallible.runs_bind_ok (by rw [Fallible.runs_ofExcept, haddress])).trans ?_
    refine (Fallible.runs_bind_ok (runs_operate_ok hmounts)).trans ?_
    rw [show MountTable.top? table directory = none from htable ▸ free]
    exact runs_operate_ok (w := { w with node := n₁ }) hmount
  · rw [h₂, h₁]
    rfl

end

end VolumeDriver.InMemory
