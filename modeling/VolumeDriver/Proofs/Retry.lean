import VolumeDriver.Driver.Route
import VolumeDriver.Proofs.BlockVolume.Retry
import VolumeDriver.Proofs.FileStorage.Retry
set_option autoImplicit false

/-! # Attaching again

Requests to the control plane cannot be told from repeated ones, so an attach that is tried again has to
look at what is there. Here it is shown that this is enough: however often an attach was disturbed
(`Disturbed`), and wherever, one that is left alone ends as the first one would have ended. -/

namespace VolumeDriver.InMemory

open ControlPlane

/-- An answer (`DriverRun.answer`) that reports success is the value of a flow that did not fail, here with
    nothing in its way (`Disturbed`). -/
theorem ok_of_success {m : DriverRun Status} {w : World}
    (h : (m.answer.run World.act w).1.outcome = .success) :
    ∃ status d', Fallible.runs Disturbed.act m ⟨w, []⟩ = (.ok status, d') := by
  rw [run_answer] at h
  rw [runs_undisturbed]
  cases hx : (Fallible.runs World.act m w).1 with
  | ok status => exact ⟨status, _, rfl⟩
  | error fault =>
    rw [hx] at h
    cases h

/-- **An attach that is tried again ends as if it were the first one.** If an undisturbed attach would
    succeed, then after any number of attempts, each with any faults at any of its exchanges, an
    undisturbed one gives the same answer and leaves the same attachments and exports behind. `hlong` and
    `hpages` let all listings be read to their ends: places in them are 64-bit numbers, and they have no
    more pages than items. -/
theorem attach_again {timing : Timing} {family : StorageFamily} {options : Options} {node : String}
    {w : World} (hcalm : w.Calm) (hattachments : w.cloud.Sound) (hexports : w.cloud.SoundExports)
    (hsize : w.cloud.pageSize ≠ some 0)
    (hlong : max w.cloud.attachments.length w.cloud.exports.length + 1 < UInt64.size)
    (hpages : max w.cloud.attachments.length w.cloud.exports.length + 1 < timing.limits.pages)
    (hsuccess : (((driverFor timing family).attach options node).run World.act w).1.outcome =
      .success)
    (attempts : List (List (Option Fault))) :
    let attach := (driverFor timing family).attach options node
    let first := attach.run World.act w
    let last := attach.run World.act (afterAttempts attach attempts w)
    last.1 = first.1 ∧ last.2.cloud.attachments = first.2.cloud.attachments ∧
      last.2.cloud.exports = first.2.cloud.exports := by
  have hattachments' : w.picture.cloud.Sound := hattachments.unrecorded
  have hexports' : w.picture.cloud.SoundExports := hexports.unrecorded
  have hd : Shows w.picture ⟨w, []⟩ := ⟨hcalm, rfl, rfl⟩
  -- The first attach succeeds, so either driver's attach converges.
  obtain ⟨m, I, status, final, hm, hI, hconverges⟩ : ∃ m I status final,
      (driverFor timing family).attach options node = DriverRun.answer m ∧ I w.picture ∧
        Converges m I status final := by
    cases family with
    | block =>
      obtain ⟨status, d', hrun⟩ :=
        ok_of_success (m := BlockVolume.attach timing.limits options node) hsuccess
      obtain ⟨I, status, final, hI, hconverges⟩ := converges_blockAttach hattachments' hsize
        (Nat.lt_of_le_of_lt (Nat.succ_le_succ (Nat.le_max_left _ _)) hlong)
        (Nat.lt_of_le_of_lt (Nat.succ_le_succ (Nat.le_max_left _ _)) hpages) hd hrun
      exact ⟨_, I, status, final, rfl, hI, hconverges⟩
    | fileStorage =>
      obtain ⟨status, d', hrun⟩ :=
        ok_of_success (m := FileStorage.attach timing.limits options node) hsuccess
      obtain ⟨I, status, final, hI, hconverges⟩ := converges_fileStorageAttach hexports' hsize
        (Nat.lt_of_le_of_lt (Nat.succ_le_succ (Nat.le_max_right _ _)) hlong)
        (Nat.lt_of_le_of_lt (Nat.succ_le_succ (Nat.le_max_right _ _)) hpages) hd hrun
      exact ⟨_, I, status, final, rfl, hI, hconverges⟩
  obtain ⟨hstatus, hpicture⟩ := hconverges.again attempts hcalm hI
  rw [hm]
  exact ⟨hstatus, congrArg (fun p : Picture => p.cloud.attachments) hpicture,
    congrArg (fun p : Picture => p.cloud.exports) hpicture⟩

/-- A running node, a volume that was attached to it before, and a file system with its mount target. -/
def storageWorld : World where
  cloud := {
    lastId := 1
    pageSize := some 1
    volumes := ["ocid1.volume.a"]
    attachments := [⟨Cloud.madeUpId "volumeattachment" 1, "ocid1.volume.a", "one", .detached, "iscsi",
      none, none, none⟩]
    instances := [⟨"one", "node-1", .running⟩]
    fileSystems := [⟨"ocid1.filesystem.f", "domain", "compartment"⟩]
    mountTargets := [⟨"target", "domain", "set", ["ip"], .active⟩]
    privateIps := [⟨"ip", "10.0.0.2"⟩] }
  config := some {}

/-- Options that name a volume under `Options.volumeName?`. -/
def naming (volume : String) : Options :=
  ⟨.ofList [(Options.volumeNameKey, volume)]⟩

/-- The first attempt ends after its request, the second one before its own, and the third one while it
    waits. -/
def troubles : List (List (Option Fault)) :=
  let gone := Cloud.notFound "GetVolumeAttachment" "gone"
  let busy := Cloud.conflict "AttachVolume" "busy"
  [[none, none, some gone], [some (.unanswered "ListInstances" "timeout")],
    [none, some busy, none, none, some gone]]

theorem sound_storageWorld : storageWorld.cloud.Sound :=
  .of_one rfl rfl (Nat.le_refl 1) (by decide)

theorem soundExports_storageWorld : storageWorld.cloud.SoundExports where
  ids := by decide
  fresh := nofun
  unscripted := by decide

/-- The volume and the file system are there for the node in the end, whatever `troubles` came in
    between. -/
theorem troubles_again :
    (let attach := (driverFor {} .block).attach (naming "ocid1.volume.a") "node-1"
      let first := attach.run World.act storageWorld
      let last := attach.run World.act (afterAttempts attach troubles storageWorld)
      first.1.outcome = .success ∧ last.1 = first.1 ∧
        last.2.cloud.attachments = first.2.cloud.attachments ∧
        last.2.cloud.exports = first.2.cloud.exports) ∧
    (let attach := (driverFor {} .fileStorage).attach (naming "ocid1.filesystem.f") "node-1"
      let first := attach.run World.act storageWorld
      let last := attach.run World.act (afterAttempts attach troubles storageWorld)
      first.1.outcome = .success ∧ last.1 = first.1 ∧
        last.2.cloud.attachments = first.2.cloud.attachments ∧
        last.2.cloud.exports = first.2.cloud.exports) := by
  have hblock : (((driverFor {} .block).attach (naming "ocid1.volume.a") "node-1").run World.act
      storageWorld).1.outcome = .success := by decide +kernel
  have hfiles : (((driverFor {} .fileStorage).attach (naming "ocid1.filesystem.f") "node-1").run
      World.act storageWorld).1.outcome = .success := by decide +kernel
  exact ⟨⟨hblock, attach_again (by decide) sound_storageWorld soundExports_storageWorld (by decide)
      (by decide) (by decide) hblock troubles⟩,
    ⟨hfiles, attach_again (by decide) sound_storageWorld soundExports_storageWorld (by decide)
      (by decide) (by decide) hfiles troubles⟩⟩

end VolumeDriver.InMemory
