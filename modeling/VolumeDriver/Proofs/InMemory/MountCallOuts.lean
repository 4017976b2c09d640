import VolumeDriver.Proofs.Host.Mount
import VolumeDriver.Proofs.InMemory.Leads
import VolumeDriver.Proofs.InMemory.Sides
set_option autoImplicit false

/-! # The answers to `mountdevice` and `unmountdevice` in memory

Under the program's general name a mount goes to the driver that the volume's name belongs to, and an
unmount, which names no volume, to the one that the mount on top looks like. `unmount_undoes_mount` says
that the two agree, and that the mount which is undone is the one that was made. -/

namespace VolumeDriver.InMemory

open Host

/-! ## What the host side comes to, as an answer -/

section

variable {α : Type}

/-- The answer to what the host side comes to. -/
def hostStatus (status : α → Status) : Except Host.Fault α → Status
  | .ok a => status a
  | .error fault => .failure (DriverFault.host fault).message

theorem run_onHost_answer {m : Host.Run α} {k : α → DriverRun Status} (status : α → Status)
    (hk : ∀ a, k a = pure (status a)) (w : World) :
    (DriverRun.answer (onHost m >>= k)).run World.act w =
      (hostStatus status (Fallible.runs World.hostAnswer m w).1,
        (Fallible.runs World.hostAnswer m w).2) := by
  have honHost := runs_onHost m w
  rw [run_answer]
  rcases hm : Fallible.runs World.hostAnswer m w with ⟨fault | a, w'⟩
  · rw [hm] at honHost
    rw [Fallible.runs_bind_error honHost]
    rfl
  · rw [hm] at honHost
    rw [Fallible.runs_bind_ok honHost, hk]
    rfl

/-- The answer to a mount; only one that was made is answered without a remark. -/
def mountStatus (remark : String) : MountOutcome → Status
  | .mounted => .success
  | .alreadyMounted => .successWith remark

theorem mounted_of_success {remark : String} {run : Except Host.Fault MountOutcome × World}
    {w : World} (h : (hostStatus (mountStatus remark) run.1, run.2) = (.success, w)) :
    run = (.ok .mounted, w) := by
  obtain ⟨hstatus, hworld⟩ := Prod.mk.inj h
  match run with
  | (.ok .mounted, _) => exact Prod.ext rfl hworld
  | (.ok .alreadyMounted, _) => cases hstatus
  | (.error fault, _) => cases hstatus

/-- The answer to an unmount of a volume. -/
def unmountStatus : UnmountOutcome → Status
  | .unmounted => .success
  | .notMounted => .successWith "Mount point not found. Nothing to do."

theorem run_blockMount (wait : DeviceWait) (directory device : String) (options : Options)
    (w : World) :
    (BlockVolume.mount wait directory device options).answer.run World.act w =
      (hostStatus (mountStatus "Device already mounted. Nothing to do.")
          (Fallible.runs World.hostAnswer (mountVolume directory device options.fsType
            (mountOptions options.readWrite?) wait) w).1,
        (Fallible.runs World.hostAnswer (mountVolume directory device options.fsType
            (mountOptions options.readWrite?) wait) w).2) := by
  refine run_onHost_answer (mountStatus _) (fun outcome => ?_) w
  cases outcome <;> rfl

theorem run_exportMount (directory device : String) (options : Options) (w : World) :
    (FileStorage.mount directory device options).answer.run World.act w =
      (hostStatus (mountStatus "Export already mounted. Nothing to do.")
          (Fallible.runs World.hostAnswer (mountExport directory device
            (mountOptions options.readWrite?)) w).1,
        (Fallible.runs World.hostAnswer (mountExport directory device
            (mountOptions options.readWrite?)) w).2) := by
  refine run_onHost_answer (mountStatus _) (fun outcome => ?_) w
  cases outcome <;> rfl

theorem run_blockUnmount (directory : String) (w : World) :
    (BlockVolume.unmount directory).answer.run World.act w =
      (hostStatus unmountStatus (unmountOnce directory w).1, (unmountOnce directory w).2) := by
  refine run_onHost_answer unmountStatus (fun outcome => ?_) w
  cases outcome <;> rfl

theorem run_exportUnmount (directory : String) (w : World) :
    (FileStorage.unmount directory).answer.run World.act w =
      (hostStatus (fun _ => .successWith ("UnmountDevice:" ++ directory))
          (Fallible.runs World.hostAnswer (unmountExport directory) w).1,
        (Fallible.runs World.hostAnswer (unmountExport directory) w).2) :=
  run_onHost_answer _ (fun _ => rfl) w

end

/-! ## A mount and its unmount -/

section

variable {w w' : World} {directory device : String} {options : Options} {family : StorageFamily}

/-- The kind of storage that an unmount is about: what is mounted on top tells. -/
def familyOf (found : Option MountEntry) : StorageFamily :=
  match found with
  | some entry => if entry.isNfs then .fileStorage else .block
  | none => .block

theorem runs_select_unmount (h : w.node.Calm) (directory : String) :
    Fallible.runs World.act (Route.claim.select (.unmountDevice directory)) w =
      (.ok (familyOf (MountTable.top? w.node.mounts directory)),
        { w with node := w.node.noted .mounts }) := by
  have honHost := runs_onHost (mountAt directory) w
  rw [runs_mountAt h] at honHost
  refine (Fallible.runs_bind_ok honHost).trans ?_
  cases MountTable.top? w.node.mounts directory with
  | none => rfl
  | some entry => rfl

/-- A mount is answered by the driver that the volume's name belongs to (`claimedBy`), and a mount that is
    made is one that this driver makes. -/
theorem made_of_success {timing : Timing} (hcalm : w.node.Calm)
    (h : (Route.claim.answer timing (.mountDevice directory device options)).run World.act w =
      (.success, w')) :
    ∃ family entry, claimedBy (.mountDevice directory device options) = .ok family ∧
      w'.node.Calm ∧ w'.node.mounts = w.node.mounts ++ [entry] ∧ entry.target = directory ∧
      match family with
      | .block => entry.fsType = options.fsType ∧
        ∃ target, IscsiTarget.ofDevicePath entry.source = .ok target
      | .fileStorage => entry.fsType = nfsType := by
  rw [run_routeAnswer, runs_select _ _ (by exact nofun)] at h
  cases hfamily : claimedBy (.mountDevice directory device options) with
  | error fault =>
    rw [hfamily] at h
    cases congrArg (fun run => run.1.outcome) h
  | ok family =>
    rw [hfamily] at h
    cases family with
    | block =>
      have hanswer := (run_blockMount timing.deviceWait directory device options w).symm.trans h
      have hrun := mounted_of_success hanswer
      have hcalm' := calm_of_runs hcalm hrun
      obtain ⟨target, link, ⟨hnot, _⟩ | ⟨_, _, _, hmounts⟩⟩ := mountVolume_cases hrun
      · cases hnot
      · exact ⟨.block, _, rfl, hcalm', hmounts, rfl, rfl, target, link⟩
    | fileStorage =>
      have hanswer := (run_exportMount directory device options w).symm.trans h
      have hrun := mounted_of_success hanswer
      have hcalm' := calm_of_runs hcalm hrun
      obtain ⟨address, _, ⟨hnot, _⟩ | ⟨_, _, _, hmounts⟩⟩ := mountExport_cases hrun
      · cases hnot
      · exact ⟨.fileStorage, _, rfl, hcalm', hmounts, rfl, rfl⟩

variable {table : List MountEntry} {entry : MountEntry} {target : IscsiTarget}

/-- Under `Route.claim`, a volume's mount that was made last is undone, and so is the login to its
    target. -/
theorem run_unmount_block (timing : Timing) (h : w.node.Calm)
    (hmounts : w.node.mounts = table ++ [entry]) (htarget : entry.target = directory)
    (hnfs : entry.isNfs = false) (link : IscsiTarget.ofDevicePath entry.source = .ok target) :
    (Route.claim.answer timing (.unmountDevice directory)).run World.act w =
      (.success, { w with node := (w.node.noted .mounts).tornDown directory entry target }) := by
  have htop : MountTable.top? w.node.mounts directory = some entry := by
    rw [hmounts]
    exact MountTable.top?_concat table htarget
  have hfamily : familyOf (some entry) = .block := if_neg (by simp [hnfs])
  have hunmount := unmountOnce_top (w := { w with node := w.node.noted .mounts })
    (h.noted .mounts) htop link htarget
  rw [run_routeAnswer, runs_select_unmount h, htop, hfamily]
  refine (run_blockUnmount directory _).trans ?_
  rw [hunmount]
  rfl

/-- Under `Route.claim`, an export's mount that was made last is undone. -/
theorem run_unmount_export (timing : Timing) (h : w.node.Calm)
    (hmounts : w.node.mounts = table ++ [entry]) (htarget : entry.target = directory)
    (hnfs : entry.isNfs = true) :
    (Route.claim.answer timing (.unmountDevice directory)).run World.act w =
      (.successWith ("UnmountDevice:" ++ directory),
        { w with node := (w.node.noted .mounts).unmounted directory }) := by
  have htop : MountTable.top? w.node.mounts directory = some entry := by
    rw [hmounts]
    exact MountTable.top?_concat table htarget
  have hfamily : familyOf (some entry) = .fileStorage := if_pos hnfs
  have hunmount := operate_unmount (h.noted .mounts) (MountTable.any_of_top? htop htarget)
  have hrun : Fallible.runs World.hostAnswer (unmountExport directory)
      { w with node := w.node.noted .mounts } =
        (.ok (), { w with node := (w.node.noted .mounts).unmounted directory }) :=
    congrArg (fun run : Except Host.Fault Unit × Node => (run.1, { w with node := run.2 })) hunmount
  rw [run_routeAnswer, runs_select_unmount h, htop, hfamily]
  refine (run_exportUnmount directory _).trans ?_
  rw [hrun]
  rfl

/-- **To unmount undoes a mount.** Let a mount under the program's general name (`Route.claim`) be made, at
    any directory of a host on which nothing is made to fail, whatever is mounted there already; the bare
    success tells it from a mount that was there before, which is answered with a remark. Then the unmount
    of that directory goes to the same driver, succeeds, and leaves the mounts as they were. -/
theorem unmount_undoes_mount {timing : Timing} (h : w.node.Calm)
    (hfsType : claimedBy (.mountDevice directory device options) = .ok .block →
      Cut.startsWith options.fsType "nfs" = false)
    (hmount : (Route.claim.answer timing (.mountDevice directory device options)).run World.act w =
      (.success, w')) :
    ∃ family status w'',
      (Fallible.runs World.act (Route.claim.select (.mountDevice directory device options)) w).1 =
        .ok family ∧
      (Fallible.runs World.act (Route.claim.select (.unmountDevice directory)) w').1 = .ok family ∧
      (Route.claim.answer timing (.unmountDevice directory)).run World.act w' = (status, w'') ∧
      status.outcome = .success ∧ w''.node.mounts = w.node.mounts := by
  -- What was mounted last is both what the unmount goes by and what it takes away.
  obtain ⟨family, entry, hfamily, hcalm, hmounts, htarget, hentry⟩ := made_of_success h hmount
  have htop : MountTable.top? w'.node.mounts directory = some entry := by
    rw [hmounts]
    exact MountTable.top?_concat _ htarget
  have hrestored : Node.removeLast directory w'.node.mounts = w.node.mounts := by
    rw [hmounts]
    exact Node.removeLast_concat _ htarget
  rw [runs_select _ _ (by exact nofun), runs_select_unmount hcalm, htop, hfamily]
  cases family with
  | block =>
    obtain ⟨hsame, target, link⟩ := hentry
    have hnfs : entry.isNfs = false := by
      rw [MountEntry.isNfs, hsame]
      exact hfsType hfamily
    exact ⟨.block, _, _, rfl, congrArg Except.ok (if_neg (by simp [hnfs])),
      run_unmount_block timing hcalm hmounts htarget hnfs link, rfl, hrestored⟩
  | fileStorage =>
    have hnfs : entry.isNfs = true := by
      rw [MountEntry.isNfs, hentry]
      decide
    exact ⟨.fileStorage, _, _, rfl, congrArg Except.ok (if_pos hnfs),
      run_unmount_export timing hcalm hmounts htarget hnfs, rfl, hrestored⟩

end

/-- A host with two mounts at a directory, under two spellings of it. -/
def stackedWorld : World where
  node := {
    directories := .ofList [("/mnt/a", ())]
    mounts := [⟨"/dev/sdb", "/mnt/a", "xfs"⟩, ⟨"10.0.0.9:/mnt/10.0.0.9/a", "/mnt/a/", "nfs4"⟩] }

/-- In `stackedWorld`, both mounts are there again when a third one, on top of them, has been undone. -/
theorem unmount_undoes_mount_stackedWorld :
    stackedWorld.node.Calm ∧
    (claimedBy (.mountDevice "/mnt/a" sampleMount.source .empty) = .ok .block →
      Cut.startsWith Options.empty.fsType "nfs" = false) ∧
    ∃ w' status w'',
      (Route.claim.answer {} (.mountDevice "/mnt/a" sampleMount.source .empty)).run World.act
        stackedWorld = (.success, w') ∧
      (Route.claim.answer {} (.unmountDevice "/mnt/a")).run World.act w' = (status, w'') ∧
      status.outcome = .success ∧ w''.node.mounts = stackedWorld.node.mounts := by
  have hcalm : stackedWorld.node.Calm := by decide
  have hfsType : Cut.startsWith Options.empty.fsType "nfs" = false := by decide
  have hmount : ((Route.claim.answer {} (.mountDevice "/mnt/a" sampleMount.source .empty)).run
      World.act stackedWorld).1 = .success := by
    decide +kernel
  obtain ⟨_, status, w'', _, _, hrun, hstatus, hmounts⟩ :=
    unmount_undoes_mount hcalm (fun _ => hfsType) (Prod.ext hmount rfl)
  exact ⟨hcalm, fun _ => hfsType, _, status, w'', Prod.ext hmount rfl, hrun, hstatus, hmounts⟩

end VolumeDriver.InMemory
