import VolumeDriver.Host.Nfs
import VolumeDriver.Proofs.Flow.Visits
import VolumeDriver.Proofs.Host.Unmount
import VolumeDriver.Proofs.InMemory.Operations
set_option autoImplicit false

/-! # What a mount that succeeds has done

A volume that is mounted already, wherever that may be, is left alone by `mountVolume`. Where a mount is
made, it is made on top of whatever there is at the directory, so it is the one that an unmount will find
(`MountTable.top?`). -/

namespace VolumeDriver

/-- What is mounted last at a directory is on top there (`top?`). -/
theorem MountTable.top?_concat (table : List MountEntry) {entry : MountEntry} {path : String}
    (h : entry.target = path) : top? (table ++ [entry]) path = some entry := by
  rw [top?, List.reverse_append, List.reverse_singleton, List.singleton_append,
    List.find?_cons_of_pos (by simp [h])]

/-- After the mount that was made last, `removeLast` leaves the others as they were. -/
theorem InMemory.Node.removeLast_concat (table : List MountEntry) {entry : MountEntry}
    {path : String} (h : entry.target = path) :
    InMemory.Node.removeLast path (table ++ [entry]) = table := by
  rw [removeLast, List.reverse_append, List.reverse_singleton, List.singleton_append,
    List.eraseP_cons_of_pos (by simp [h]), List.reverse_reverse]

namespace InMemory

open Host

/-! ## Bringing a device about -/

/-- The part of `mountVolume` before the mount of the device: the login to its target and the wait for
    it. -/
def bringDevice (target : IscsiTarget) (device : String) (wait : DeviceWait) : Host.Run Unit := do
  operate (.addRecord target)
  operate (.setAutomaticLogin target)
  operate (.login target)
  waitForDevice device wait

theorem mountVolume_eq (directory device fsType : String) (options : List String)
    (wait : DeviceWait) :
    mountVolume directory device fsType options wait = do
      let target ← .ofExcept (targetOf device)
      let opened : Bool ← operate (.deviceOpened device)
      if opened then return .alreadyMounted
      else
        bringDevice target device wait
        operate (.formatAndMount device directory fsType options)
        return .mounted := by
  rw [mountVolume]
  refine congrArg (Bind.bind _) (funext fun target => ?_)
  refine congrArg (Bind.bind _) (funext fun opened => ?_)
  refine congrArg (ite _ _) ?_
  -- The three operations and the wait are a flow of their own.
  refine Eq.symm ((bind_assoc _ _ _).trans (congrArg (Bind.bind _) (funext fun _ => ?_)))
  refine (bind_assoc _ _ _).trans (congrArg (Bind.bind _) (funext fun _ => ?_))
  exact bind_assoc _ _ _

/-- The action is one of `bringDevice` for the target. -/
def BringsDevice (target : IscsiTarget) : Host.signature.Action → Prop
  | .operate (.addRecord t) | .operate (.setAutomaticLogin t) | .operate (.login t) => t = target
  | .operate (.deviceExists _) | .pause _ => True
  | _ => False

theorem only_lookForDevice (target : IscsiTarget) (device : String) (interval : Nat)
    (exhausted : Host.Fault) (attempts : Nat) :
    Fallible.Only (BringsDevice target) (lookForDevice device interval exhausted attempts) := by
  induction attempts with
  | zero => exact Fallible.only_throw _
  | succ attempts ih =>
    refine Fallible.Only.bind (Flow.only_perform (S := Host.signature) trivial) fun found => ?_
    cases found with
    | true => exact Fallible.only_pure _
    | false =>
      have hpause : Fallible.Only (BringsDevice target) (liftM (pause interval) : Host.Run Unit) :=
        ⟨trivial, fun _ => trivial⟩
      by_cases hlast : attempts ≠ 0
      · simp only [if_pos hlast]
        exact hpause.bind fun _ => ih
      · simp only [if_neg hlast]
        exact ih

theorem only_bringDevice (target : IscsiTarget) (device : String) (wait : DeviceWait) :
    Fallible.Only (BringsDevice target) (bringDevice target device wait) := by
  have hperform : ∀ o : Operation, BringsDevice target (.operate o) →
      Fallible.Only (BringsDevice target) (operate o) :=
    fun o ho => Flow.only_perform (S := Host.signature) ho
  refine (hperform (.addRecord target) rfl).bind fun _ => ?_
  refine (hperform (.setAutomaticLogin target) rfl).bind fun _ => ?_
  refine (hperform (.login target) rfl).bind fun _ => ?_
  exact only_lookForDevice target device _ _ _

/-- In `bringDevice`, no mount is made or undone, and nothing formatted. -/
theorem layout_bringDevice {target : IscsiTarget} {device : String} {wait : DeviceWait}
    {result : Except Host.Fault Unit} {w w' : World}
    (h : Fallible.runs World.hostAnswer (bringDevice target device wait) w = (result, w')) :
    w'.node.mounts = w.node.mounts ∧ w'.node.directories = w.node.directories ∧
      w'.node.fileSystems = w.node.fileSystems := by
  have hbring : Fallible.Throughout World.hostAnswer
      (fun w' => w'.node.mounts = w.node.mounts ∧ w'.node.directories = w.node.directories ∧
        w'.node.fileSystems = w.node.fileSystems)
      (bringDevice target device wait) w := by
    refine (only_bringDevice target device wait).throughout (fun action s haction hs => ?_)
      ⟨rfl, rfl, rfl⟩
    cases action with
    | pause milliseconds => exact hs
    | operate o =>
      -- An operation that changes mounts is none of those that bring a device.
      have hspares : ¬Node.ChangesMounts o := by
        cases o <;> first | exact id | cases haction
      exact ⟨(s.node.mounts_operate hspares).trans hs.1, (s.node.directories_operate o).trans hs.2.1,
        (s.node.fileSystems_operate hspares).trans hs.2.2⟩
  have hlast := hbring.last
  rwa [show ((bringDevice target device wait).run.run World.hostAnswer w).2 = w' from
    congrArg Prod.snd h] at hlast

/-! ## Mounting a volume -/

theorem ofDevicePath_of_targetOf {device : String} {target : IscsiTarget}
    (h : targetOf device = .ok target) : IscsiTarget.ofDevicePath device = .ok target := by
  rw [targetOf] at h
  split at h
  · rename_i found
    rw [found]
    exact congrArg _ (Except.ok.inj h)
  · cases h

variable {w w' : World} {directory device fsType : String} {options : List String} {wait : DeviceWait}

/-- What there is to say of a `mountVolume` that succeeds. -/
theorem mountVolume_cases {outcome : MountOutcome}
    (h : Fallible.runs World.hostAnswer (mountVolume directory device fsType options wait) w =
      (.ok outcome, w')) :
    ∃ target, IscsiTarget.ofDevicePath device = .ok target ∧
      ((outcome = .alreadyMounted ∧ (w.node.mounts.any fun e => e.source = device) = true ∧
          w'.node.plain = w.node.plain) ∨
        (outcome = .mounted ∧ (w.node.mounts.any fun e => e.source = device) = false ∧
          w.node.directories.contains directory = true ∧
          w'.node.mounts = w.node.mounts ++ [⟨device, directory, fsType⟩])) := by
  rw [mountVolume_eq] at h
  obtain ⟨target, _, hread, h⟩ := Fallible.ok_of_runs_bind h
  obtain ⟨htarget, rfl⟩ := Fallible.ok_of_runs_ofExcept hread
  refine ⟨target, ofDevicePath_of_targetOf htarget, ?_⟩
  obtain ⟨opened, w₁, hopened, h⟩ := Fallible.ok_of_runs_bind h
  obtain ⟨hbrings, h₁⟩ := effect_of_runs hopened
  have hmounts₁ : w₁.node.mounts = w.node.mounts := (congrArg Node.mounts h₁ :)
  have hdirectories₁ : w₁.node.directories = w.node.directories :=
    (congrArg Node.directories h₁ :)
  cases opened with
  | true =>
    cases h
    exact .inl ⟨rfl, hbrings.symm, h₁⟩
  | false =>
    obtain ⟨_, w₂, hbring, h⟩ := Fallible.ok_of_runs_bind h
    obtain ⟨_, w₃, hmount, h⟩ := Fallible.ok_of_runs_bind h
    cases h
    -- What the last mount finds is the table and the directories that there were in the beginning.
    obtain ⟨hmounts₂, hdirectories₂, _⟩ := layout_bringDevice hbring
    obtain ⟨⟨_, known⟩, h₃⟩ := effect_of_runs hmount
    have hmounts₃ : w'.node.mounts = w₂.node.mounts ++ [⟨device, directory, fsType⟩] :=
      (congrArg Node.mounts h₃ :)
    refine .inr ⟨rfl, hbrings.symm, ?_, ?_⟩
    · rwa [Node.plain_directories, hdirectories₂, hdirectories₁] at known
    · rw [hmounts₃, hmounts₂, hmounts₁]

/-- **What a mount that succeeds has done.** A `mountVolume` that comes to an outcome comes to
    `MountOutcome.alreadyMounted` exactly if the device is mounted somewhere, be it elsewhere, and then no
    mount is made. Otherwise the directory was there, and the device is mounted at it on top of everything
    else. Nothing is said of a mount that fails, as it may for a mounted device too: where the device spells
    no target, or where it cannot be found out whether it is mounted. -/
theorem mountVolume_ok {outcome : MountOutcome}
    (h : Fallible.runs World.hostAnswer (mountVolume directory device fsType options wait) w =
      (.ok outcome, w')) :
    (outcome = .alreadyMounted ↔ ∃ e ∈ w.node.mounts, e.source = device) ∧
      (outcome = .alreadyMounted → w'.node.mounts = w.node.mounts) ∧
      (outcome = .mounted → w.node.directories.contains directory = true ∧
        w'.node.mounts = w.node.mounts ++ [⟨device, directory, fsType⟩] ∧
        ∃ entry, MountTable.top? w'.node.mounts directory = some entry ∧ entry.source = device) := by
  have hany : (w.node.mounts.any fun e => e.source = device) = true ↔
      ∃ e ∈ w.node.mounts, e.source = device := by
    simp [List.any_eq_true]
  obtain ⟨target, _, ⟨rfl, opened, hplain⟩ | ⟨rfl, closed, known, hmounts⟩⟩ := mountVolume_cases h
  · refine ⟨iff_of_true rfl (hany.1 opened), fun _ => ?_, nofun⟩
    exact (congrArg Node.mounts hplain :)
  · have hnone : ¬∃ e ∈ w.node.mounts, e.source = device := by
      rw [← hany, closed]
      exact Bool.false_ne_true
    have htop : MountTable.top? w'.node.mounts directory = some ⟨device, directory, fsType⟩ := by
      rw [hmounts]
      exact MountTable.top?_concat _ rfl
    exact ⟨iff_of_false nofun hnone, nofun, fun _ => ⟨known, hmounts, _, htop, rfl⟩⟩

/-! ## Mounting an export -/

/-- What `mountAt` finds at a directory is read off the table. -/
theorem mountAt_cases {path : String} {found : Option MountEntry}
    (h : Fallible.runs World.hostAnswer (mountAt path) w = (.ok found, w')) :
    found = MountTable.top? w.node.mounts path ∧ w'.node.plain = w.node.plain := by
  obtain ⟨table, w₁, hmounts, h⟩ := Fallible.ok_of_runs_bind h
  obtain ⟨rfl, hplain⟩ := effect_of_runs hmounts
  cases h
  exact ⟨rfl, hplain⟩

theorem runs_mountAt (h : w.node.Calm) (path : String) :
    Fallible.runs World.hostAnswer (mountAt path) w =
      (.ok (MountTable.top? w.node.mounts path), { w with node := w.node.noted .mounts }) :=
  runs_operate_ok (operate_mounts h)

/-- What there is to say of a `mountExport` that succeeds. -/
theorem mountExport_cases {outcome : MountOutcome}
    (h : Fallible.runs World.hostAnswer (mountExport directory device options) w =
      (.ok outcome, w')) :
    ∃ address, exportAddress device = .ok address ∧
      ((outcome = .alreadyMounted ∧ w'.node.plain = w.node.plain) ∨
        (outcome = .mounted ∧ MountTable.top? w.node.mounts directory = none ∧
          w.node.directories.contains directory = true ∧
          w'.node.mounts =
            w.node.mounts ++ [⟨address ++ ":" ++ device, directory, nfsType⟩])) := by
  obtain ⟨address, _, hread, h⟩ := Fallible.ok_of_runs_bind h
  obtain ⟨haddress, rfl⟩ := Fallible.ok_of_runs_ofExcept hread
  refine ⟨address, haddress, ?_⟩
  obtain ⟨found, w₁, hfound, h⟩ := Fallible.ok_of_runs_bind h
  obtain ⟨rfl, h₁⟩ := mountAt_cases hfound
  have hmounts₁ : w₁.node.mounts = w.node.mounts := (congrArg Node.mounts h₁ :)
  have hdirectories₁ : w₁.node.directories = w.node.directories :=
    (congrArg Node.directories h₁ :)
  split at h
  · -- Something is mounted there: the export itself, or else the mount fails.
    split at h
    · cases h
      exact .inl ⟨rfl, h₁⟩
    · cases h
  · rename_i hnone
    obtain ⟨_, w₂, hmount, h⟩ := Fallible.ok_of_runs_bind h
    cases h
    obtain ⟨known, h₂⟩ := effect_of_runs hmount
    have hmounts₂ : w'.node.mounts =
        w₁.node.mounts ++ [⟨address ++ ":" ++ device, directory, nfsType⟩] :=
      (congrArg Node.mounts h₂ :)
    refine .inr ⟨rfl, hnone, ?_, ?_⟩
    · rw [← hdirectories₁]
      exact known
    · rw [hmounts₂, hmounts₁]

/-- A host with a directory and nothing else. -/
def emptyWorld : World where
  node := { directories := .ofList [("/mnt/a", ())] }

/-- In `emptyWorld`, the mount that is made is the one that is found. -/
theorem mountVolume_ok_emptyWorld :
    ∃ w', Fallible.runs World.hostAnswer
        (mountVolume "/mnt/a" sampleMount.source "ext4" [] {}) emptyWorld = (.ok .mounted, w') ∧
      w'.node.mounts = [sampleMount] ∧
      ∃ entry, MountTable.top? w'.node.mounts "/mnt/a" = some entry ∧
        entry.source = sampleMount.source := by
  obtain ⟨w', hrun⟩ : ∃ w', Fallible.runs World.hostAnswer
      (mountVolume "/mnt/a" sampleMount.source "ext4" [] {}) emptyWorld = (.ok .mounted, w') :=
    ⟨_, Fallible.runs_of_toOption (by decide +kernel)⟩
  obtain ⟨_, hmounts, htop⟩ := (mountVolume_ok hrun).2.2 rfl
  exact ⟨w', hrun, hmounts, htop⟩

/-- In `mountedWorld`, a device that is mounted elsewhere is said to be mounted, though nothing is mounted
    at the directory and there is no such directory. -/
theorem mountVolume_elsewhere :
    ∃ w', Fallible.runs World.hostAnswer
        (mountVolume "/mnt/b" sampleMount.source "ext4" [] {}) mountedWorld =
          (.ok .alreadyMounted, w') ∧
      MountTable.top? w'.node.mounts "/mnt/b" = none ∧
      w'.node.directories.contains "/mnt/b" = false := by
  refine ⟨_, rfl, ?_, ?_⟩
  · decide
  · decide

end InMemory

end VolumeDriver
