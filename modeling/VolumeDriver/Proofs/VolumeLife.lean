import VolumeDriver.Proofs.BlockVolume.Retry
import VolumeDriver.Proofs.FileStorage.Retry
import VolumeDriver.Proofs.Host.MountReady
import VolumeDriver.Proofs.InMemory.MountCallOuts
import VolumeDriver.Proofs.Ownership
import VolumeDriver.Proofs.Retry
set_option autoImplicit false

/-! # The life of a volume

A volume is attached, mounted, unmounted and detached, each by a call-out of its own, under the
program's general name. That the four fit together is what `attach_mount_unmount_detach` says: the
device that the attach answers is one that the mount can read, the mount is one that the unmount finds,
the four go to the same driver, and all that is left of them in the end are the records of what was
undone. -/

namespace VolumeDriver.InMemory

open ControlPlane Controller

/-! ## What a life takes, and what it leaves behind -/

/-- The length of the longest listing that a life of a volume asks for, so that `World.InOrder` can leave
    room for it. -/
def Cloud.listed (c : Cloud) : Nat :=
  max (max c.attachments.length c.exports.length) c.mountTargets.length

/-- Whether a world lets volumes live: nothing is made to fail or laid down, and there is a directory at
    which nothing is mounted. `long` and `pages` let all listings be read to their ends. -/
structure World.InOrder (w : World) (timing : Timing) (session : Session) (directory : String) :
    Prop where
  opens : w.session = .ok session
  calm : w.Calm
  hostCalm : w.node.Calm
  attachments : w.cloud.Sound
  exports : w.cloud.SoundExports
  size : w.cloud.pageSize ≠ some 0
  long : w.cloud.listed + 1 < UInt64.size
  pages : w.cloud.listed + 1 < timing.limits.pages
  retries : 2 ≤ timing.limits.poll.retries
  looks : 1 ≤ timing.deviceWait.attempts
  appears : w.node.withholdsDevices = false
  known : w.node.directories.contains directory = true
  vacant : MountTable.top? w.node.mounts directory = none

/-- A listing of a world that is `InOrder` can still be read to its end when it has become longer by one. -/
theorem World.InOrder.room {w : World} {timing : Timing} {session : Session} {directory : String}
    (h : w.InOrder timing session directory) {length : Nat} (hlength : length ≤ w.cloud.listed) :
    length + 1 < UInt64.size ∧ length + 1 < timing.limits.pages :=
  ⟨Nat.lt_of_le_of_lt (Nat.succ_le_succ hlength) h.long,
    Nat.lt_of_le_of_lt (Nat.succ_le_succ hlength) h.pages⟩

/-- The volumes that are there to be attached to a node and mounted, with the devices that they get, one
    constructor for each `StorageFamily`. -/
inductive Available (w : World) (timing : Timing) (session : Session) (options : Options)
    (node name : String) : (device : String) → Prop
  /-- a volume that belongs to no instance, for a node that is one; its device is mounted nowhere and
      holds no file system of another type -/
  | block (machine : Instance)
      (family : StorageFamily.ofName? name = some .block)
      (registered : volumeId session.regionKey name ∈ w.cloud.volumes)
      (free : w.cloud.binding (volumeId session.regionKey name) = none)
      (resolves : (w.setting timing.limits session).resolve node = .ok machine)
      (closed : ∀ e ∈ w.node.mounts, e.source ≠ deviceOf (volumeId session.regionKey name))
      (same : ∀ existing,
        w.node.fileSystems.get? (deviceOf (volumeId session.regionKey name)) = some existing →
          existing = options.fsType)
      (disk : Cut.startsWith options.fsType "nfs" = false) :
      Available w timing session options node name (deviceOf (volumeId session.regionKey name))
  /-- a file system with a mount target whose address can be read off a path, and whose path is free -/
  | fileSystem (t : ExportTarget)
      (family : Cut.startsWith name fileSystemStart = true)
      (located : w.cloud.Locates name t)
      (addressed : t.address ≠ "")
      (plain : '/' ∉ t.address.toList)
      (free : ¬w.cloud.isTaken t) :
      Available w timing session options node name t.path

/-- The host without what belongs to the target of a device, which is what a mount and an `unmount` of it
    leave. -/
def Node.without (n : Node) (device : String) : Node :=
  match IscsiTarget.ofDevicePath device with
  | .ok target =>
    { n with
      records := n.records.erase target.iqn
      automaticLogins := n.automaticLogins.erase target.iqn
      sessions := n.sessions.erase target.iqn
      devices := n.devices.erase target.devicePath }
  | .error _ => n

theorem Node.mounts_without (n : Node) (device : String) : (n.without device).mounts = n.mounts := by
  rw [without]
  split <;> rfl

/-- What is left of what was made in between is the records of it: what binds a volume or takes a path is as
    before. -/
structure Cloud.Undone (c c' : Cloud) : Prop where
  fixed : c'.fixed = c.fixed
  attachments : ∃ undone, c'.attachments = c.attachments ++ undone ∧
    ∀ a ∈ undone, a.state = .detached
  exports : ∃ undone, c'.exports = c.exports ++ undone ∧ ∀ e ∈ undone, e.state = .deleted

/-- What is `Undone` binds no volume. -/
theorem Cloud.Undone.binding {c c' : Cloud} (h : c.Undone c') (volumeId : String) :
    c'.binding volumeId = c.binding volumeId := by
  obtain ⟨undone, hattachments, hundone⟩ := h.attachments
  have hnone : undone.find? (isLiveOf volumeId) = none := by
    rw [List.find?_eq_none]
    intro a ha
    simp [isLiveOf, hundone a ha, AttachmentState.isLive]
  rw [Cloud.binding, hattachments, List.find?_append, hnone, Option.or_none, Cloud.binding]

/-- What is `Undone` takes no path. -/
theorem Cloud.Undone.isTaken {c c' : Cloud} (h : c.Undone c') (t : ExportTarget) :
    c'.isTaken t = c.isTaken t := by
  obtain ⟨undone, hexports, hundone⟩ := h.exports
  have hnone : (undone.any fun e =>
      e.exportSetId = t.mountTarget.exportSetId && e.path = t.path && e.state.isLive) = false := by
    rw [List.any_eq_false]
    intro e he
    simp [hundone e he, ExportState.isLive]
  rw [Cloud.isTaken, hexports, List.any_append, hnone, Bool.or_false, Cloud.isTaken]

/-! ## Mounted and unmounted -/

section

variable {timing : Timing} {w : World} {options : Options} {name directory device : String}

/-- A mount of a device succeeds, and so does the unmount after it. Together they take place on the host
    only, and leave nothing there (`Node.without`). -/
def MountsAndUnmounts (timing : Timing) (w : World) (options : Options) (directory device : String) :
    Prop :=
  ∃ w₂ w₃ unmounted,
    (Route.claim.answer timing (.mountDevice directory device options)).run World.act w =
      (.success, w₂) ∧
    (Route.claim.answer timing (.unmountDevice directory)).run World.act w₂ = (unmounted, w₃) ∧
    unmounted.outcome = .success ∧ (∃ node clock, w₃ = { w with node, clock }) ∧
    w₃.node.plain = w.node.plain.without device

/-- The path of an export spells no target, so `Node.without` it the host is as it was. -/
theorem Node.without_exportPath (n : Node) (address fileSystemId : String) :
    n.without (exportPath address fileSystemId) = n := by
  -- Its second character is not that of the devices' directory, and its first not that of their names.
  have hpath : (exportPath address fileSystemId).toList =
      '/' :: 'm' :: ("nt/".toList ++ address.toList ++ '/' :: fileSystemId.toList) := by
    simp [exportPath, String.toList_append]
  have hfault : IscsiTarget.ofDevicePath (exportPath address fileSystemId) = .error .noPrefix := by
    have hdirectory : IscsiTarget.directory.toList = '/' :: 'd' :: "ev/disk/by-path/".toList := by
      decide
    have hstart : IscsiTarget.nameStart.toList = 'i' :: ['p', '-'] := by
      decide
    rw [IscsiTarget.ofDevicePath, hpath, hdirectory, Cut.dropPrefix?, if_pos rfl,
      Cut.dropPrefix?_cons_ne (by decide), Option.getD_none, IscsiTarget.ofDeviceName, hstart,
      Cut.dropPrefix?_cons_ne (by decide)]
    rfl
  rw [without, hfault]

theorem frame_of_runs {α : Type} {m : Host.Run α} {result : Except Host.Fault α} {w' : World}
    (h : Fallible.runs World.hostAnswer m w = (result, w')) (n : Node) :
    ∃ node clock, { w' with node := n } = { w with node, clock } := by
  obtain ⟨_, clock, hframe⟩ := host_frame m.run w
  have hw' : w' = _ := (congrArg Prod.snd h).symm.trans hframe
  exact ⟨n, clock, by rw [hw']⟩

/-- To tear down a mount and its target (`Node.tornDown`) takes three operations. -/
theorem Node.plain_tornDown (n : Node) (directory : String) (entry : MountEntry)
    (target : IscsiTarget) :
    (n.tornDown directory entry target).plain =
      ((n.plain.after (.unmount directory)).after (.logout target)).after (.removeRecord target) :=
  rfl

/-- What a login and a mount have brought is gone with them, and so is what there was of it before
    (`Node.without`). -/
theorem Node.loggedIn_undone {n : Node} {target : IscsiTarget} (source fsType directory : String)
    (hiqn : target.iqn ≠ "") (appears : n.withholdsDevices = false) :
    (((((n.loggedIn target).mounting source directory fsType).after (.unmount directory)).after
      (.logout target)).after (.removeRecord target)) = n.without target.devicePath := by
  rw [Node.without, IscsiTarget.ofDevicePath_devicePath hiqn]
  -- To put something in before it is taken out makes no difference to what is left.
  simp [Node.mounting, Node.loggedIn, Node.after, Dictionary.erase_insert, Node.removeLast_concat,
    appears]

theorem volume_mountsAndUnmounts {target : IscsiTarget} (hname : options.volumeName? = some name)
    (family : StorageFamily.ofName? name = some .block) (h : w.node.Calm)
    (known : w.node.directories.contains directory = true)
    (appears : w.node.withholdsDevices = false) (looks : 1 ≤ timing.deviceWait.attempts)
    (hiqn : target.iqn ≠ "") (closed : ∀ e ∈ w.node.mounts, e.source ≠ target.devicePath)
    (same : ∀ existing, w.node.fileSystems.get? target.devicePath = some existing →
      existing = options.fsType)
    (disk : Cut.startsWith options.fsType "nfs" = false) :
    MountsAndUnmounts timing w options directory target.devicePath := by
  have hclosed : (w.node.mounts.any fun e => e.source = target.devicePath) = false := by
    simpa using closed
  let entry : MountEntry := ⟨target.devicePath, directory, options.fsType⟩
  obtain ⟨w₂, hrun, hplain⟩ := mountVolume_ready (mountOptions options.readWrite?) h hiqn hclosed
    known same appears looks
  have hmount : (Route.claim.answer timing (.mountDevice directory target.devicePath options)).run
      World.act w = (.success, w₂) := by
    have hvolume : (CallOut.mountDevice directory target.devicePath options).volumeName? = some name :=
      hname
    rw [run_claimed World.act timing hvolume family]
    refine (run_blockMount timing.deviceWait directory target.devicePath options w).trans ?_
    rw [hrun]
    rfl
  have hcalm := calm_of_runs h hrun
  have hmounts : w₂.node.mounts = w.node.mounts ++ [entry] := (congrArg Node.mounts hplain :)
  have htarget : entry.target = directory := rfl
  have hunmount := run_unmount_block timing hcalm hmounts htarget disk
    (IscsiTarget.ofDevicePath_devicePath hiqn)
  have hnoted : (w₂.node.noted .mounts).plain = w₂.node.plain := rfl
  refine ⟨w₂, _, _, hmount, hunmount, rfl, frame_of_runs hrun _, ?_⟩
  refine (Node.plain_tornDown _ _ _ _).trans ?_
  rw [hnoted, hplain]
  exact Node.loggedIn_undone _ _ _ hiqn appears

theorem export_mountsAndUnmounts {address fileSystemId : String}
    (hname : options.volumeName? = some name)
    (family : StorageFamily.ofName? name = some .fileStorage) (h : w.node.Calm)
    (known : w.node.directories.contains directory = true)
    (vacant : MountTable.top? w.node.mounts directory = none) (addressed : address ≠ "")
    (plain : '/' ∉ address.toList) :
    MountsAndUnmounts timing w options directory (exportPath address fileSystemId) := by
  let device := exportPath address fileSystemId
  let entry : MountEntry := ⟨address ++ ":" ++ device, directory, Host.nfsType⟩
  obtain ⟨w₂, hrun, hplain⟩ := mountExport_ready (mountOptions options.readWrite?) h
    (Host.exportAddress_exportPath addressed plain fileSystemId) vacant known
  have hmount : (Route.claim.answer timing (.mountDevice directory device options)).run World.act w =
      (.success, w₂) := by
    have hvolume : (CallOut.mountDevice directory device options).volumeName? = some name := hname
    rw [run_claimed World.act timing hvolume family]
    refine (run_exportMount directory device options w).trans ?_
    rw [hrun]
    rfl
  have hmounts : w₂.node.mounts = w.node.mounts ++ [entry] := (congrArg Node.mounts hplain :)
  have hnfs : entry.isNfs = true := by
    show Cut.startsWith Host.nfsType "nfs" = true
    decide
  have htarget : entry.target = directory := rfl
  have hunmount := run_unmount_export timing (calm_of_runs h hrun) hmounts htarget hnfs
  refine ⟨w₂, _, _, hmount, hunmount, rfl, frame_of_runs hrun _, ?_⟩
  have hunmounted : ((w₂.node.noted .mounts).unmounted directory).plain =
      w₂.node.plain.after (.unmount directory) :=
    rfl
  have hremoved : Node.removeLast directory (w.node.plain.mounts ++ [entry]) = w.node.plain.mounts :=
    Node.removeLast_concat _ rfl
  refine hunmounted.trans ?_
  rw [hplain, Node.without_exportPath]
  exact congrArg (fun mounts => { w.node.plain with mounts }) hremoved

end

/-! ## Attached and detached -/

section

variable {timing : Timing} {w : World} {session : Session} {options : Options}
  {node name directory device : String}

/-- An attach succeeds and answers with a device, and so does the detach that follows, whatever happens on
    the host in between. Together they do not touch the host, and leave records behind (`Cloud.Undone`). -/
def AttachesAndDetaches (timing : Timing) (w : World) (options : Options)
    (node name device : String) : Prop :=
  ∃ w₁,
    (Route.claim.answer timing (.attach options node)).run World.act w =
      ({ Status.success with device := some device }, w₁) ∧ w₁.node = w.node ∧
    ∀ host clock, ∃ w₄ detached,
      (Route.claim.answer timing (.detach name node)).run World.act
        { w₁ with node := host, clock } = (detached, w₄) ∧
      detached.outcome = .success ∧ w₄.node = host ∧ w.cloud.Undone w₄.cloud

/-- A call-out that names a volume and is not about the host leaves the host as it is, and comes to what its
    family's driver `Answers`. -/
theorem answered_of_answers (callOut : CallOut) {family : StorageFamily} {status : Status}
    {p p' : Picture} (hname : callOut.volumeName? = some name)
    (hfamily : StorageFamily.ofName? name = some family) (hmount : callOut.verb ≠ .mountDevice)
    (h : Answers p ((driverFor timing family).dispatch callOut) status p') (hw : w.Calm)
    (hp : w.picture = p) :
    ∃ w', (Route.claim.answer timing callOut).run World.act w = (status, w') ∧ w'.Calm ∧
      w'.picture = p' ∧ w'.node = w.node := by
  obtain ⟨hstatus, hcalm, hp'⟩ := h w hw hp
  have hcontrol := only_dispatch timing family hmount (verb_ne_of_name hname)
  rw [run_claimed World.act timing hname hfamily]
  exact ⟨_, Prod.ext hstatus rfl, hcalm, hp', node_of_only hcontrol w⟩

/-- What two `Answers` say of pictures is what `AttachesAndDetaches` says of worlds. -/
theorem attachesAndDetaches_of_answers {family : StorageFamily} {p₁ p₂ : Picture} {detached : Status}
    (hname : options.volumeName? = some name) (hfamily : StorageFamily.ofName? name = some family)
    (hw : w.Calm)
    (hattach : Answers w.picture ((driverFor timing family).dispatch (.attach options node))
      { Status.success with device := some device } p₁)
    (hdetach : Answers p₁ ((driverFor timing family).dispatch (.detach name node)) detached p₂)
    (hsuccess : detached.outcome = .success) (hundone : w.cloud.Undone p₂.cloud) :
    AttachesAndDetaches timing w options node name device := by
  obtain ⟨w₁, hrun₁, hcalm₁, hp₁, hnode₁⟩ := answered_of_answers (.attach options node) hname hfamily
    (by exact nofun) hattach hw rfl
  refine ⟨w₁, hrun₁, hnode₁, fun host clock => ?_⟩
  obtain ⟨w₄, hrun₄, _, hp₄, hnode₄⟩ := answered_of_answers (w := { w₁ with node := host, clock })
    (.detach name node) rfl hfamily (by exact nofun) hdetach hcalm₁ hp₁
  subst hp₄
  exact ⟨w₄, detached, hrun₄, hsuccess, hnode₄, hundone.fixed, hundone.attachments, hundone.exports⟩

variable (hw : w.InOrder timing session directory) (hname : options.volumeName? = some name)

include hw hname

variable (node) in
theorem volume_attachesAndDetaches {machine : Instance}
    (family : StorageFamily.ofName? name = some .block)
    (registered : volumeId session.regionKey name ∈ w.cloud.volumes)
    (free : w.cloud.binding (volumeId session.regionKey name) = none)
    (resolves : (w.setting timing.limits session).resolve node = .ok machine) :
    AttachesAndDetaches timing w options node name (deviceOf (volumeId session.regionKey name)) := by
  let id := volumeId session.regionKey name
  let new := w.picture.cloud.newAttachment machine.id id
  have hsession : w.picture.session = .ok session := hw.opens
  have hsound : w.picture.cloud.Sound := hw.attachments.unrecorded
  obtain ⟨hlong, hpages⟩ := hw.room
    (Nat.le_trans (Nat.le_max_left w.cloud.attachments.length _) (Nat.le_max_left _ _))
  obtain ⟨r, hr, hresolves⟩ := (isOf_setting timing.limits hw.opens hw.calm).resolve node
  obtain rfl : r = .ok machine := ok_of_mapError (hr.symm.trans resolves)
  have hattach := attach_free hsession
    ⟨hw.size, Nat.lt_of_succ_lt hlong, Nat.lt_of_succ_lt hpages⟩ hname (hresolves w.picture rfl) hsound
    hw.retries free registered
  -- The detach finds the new attachment in place.
  let p₁ : Picture := { w.picture with cloud := w.picture.cloud.withNew machine.id id }
  have hnew : Bound p₁ timing.limits id machine.id new :=
    bound_withNew hsound free registered hw.size hlong hpages hw.retries
  have hbound := hnew.settle
  have hsession₁ : (p₁.withAttachment new.id .attached).session = .ok session := hw.opens
  have hdetach := (leads_detach_bound node hsession₁ hbound.listable hbound.unscripted hbound.binding
    hbound.byId hw.retries).answers
  refine attachesAndDetaches_of_answers hname family hw.calm hattach hdetach rfl ⟨rfl, ?_, ?_⟩
  · refine ⟨[{ new with state := .detached }], ?_, ?_⟩
    · have hconcat := hsound.attachments_newAttachment machine.id id .detached
      rw [← Cloud.setAttachmentState_twice _ _ .attached] at hconcat
      exact hconcat
    · intro a ha
      rw [List.mem_singleton.1 ha]
  · exact ⟨[], (List.append_nil _).symm, nofun⟩

variable (node) in
theorem export_attachesAndDetaches {t : ExportTarget}
    (family : StorageFamily.ofName? name = some .fileStorage) (located : w.cloud.Locates name t)
    (free : ¬w.cloud.isTaken t) : AttachesAndDetaches timing w options node name t.path := by
  let new := w.picture.cloud.newExport t
  have hsession : w.picture.session = .ok session := hw.opens
  have hsound : w.picture.cloud.SoundExports := hw.exports.unrecorded
  obtain ⟨hlong, hpages⟩ := hw.room
    (Nat.le_trans (Nat.le_max_right _ w.cloud.exports.length) (Nat.le_max_left _ _))
  obtain ⟨hlong', hpages'⟩ := hw.room (Nat.le_max_right _ w.cloud.mountTargets.length)
  have hlist : w.picture.cloud.ListableExports timing.limits :=
    ⟨hw.size, Nat.lt_of_succ_lt hlong, Nat.lt_of_succ_lt hpages⟩
  have hfree : ¬w.picture.cloud.isTaken t := free
  have hlocated : w.picture.cloud.Locates name t :=
    ⟨located.fileSystem, located.mountTarget, located.address⟩
  have hp : Targeted w.picture timing.limits options name session t :=
    .of_locates hname hsession hlocated hw.size (Nat.lt_of_succ_lt hlong') (Nat.lt_of_succ_lt hpages')
  let p₁ : Picture := { w.picture with cloud := w.picture.cloud.withNewExport t }
  have hnew : Served p₁ timing.limits t new :=
    served_withNewExport hsound (Cloud.serving_of_not_taken hfree) hw.size hlong hpages hw.retries
  have hcreate := leads_createExport_free hlist hfree
  have hrest := leads_exportTo (hcreate.mono (F := fun _ => True) fun _ _ => trivial) hnew.unscripted
    hnew.byId rfl hnew.retries trivial trivial
  have hattach : DriverLeads w.picture (FileStorage.attach timing.limits options node) _ _ _ :=
    leads_fileStorageAttach hp hrest trivial
  -- The detach finds the new export in place.
  have hserved := hnew.settle
  have hsession₁ : (p₁.withExport new.id .active).session = .ok session := hw.opens
  have hundo := ends_undoExport hserved.listable hserved.unscripted hserved.serving hserved.byId
    hw.retries
  have hdetach : Ends World.act _ (FileStorage.detach timing.limits name node) _ _ :=
    ends_aboutTarget hsession₁ (hp.resolves _ rfl) hundo
  refine attachesAndDetaches_of_answers hname family hw.calm hattach.answers hdetach.answers rfl
    ⟨rfl, ?_, ?_⟩
  · exact ⟨[], (List.append_nil _).symm, nofun⟩
  · refine ⟨[{ new with state := .deleted }], ?_, ?_⟩
    · have hconcat := hsound.exports_newExport t .deleted
      rw [← Cloud.setExportState_twice _ _ .active] at hconcat
      exact hconcat
    · intro e he
      rw [List.mem_singleton.1 he]

variable (h : Available w timing session options node name device)

include h

/-- The halves of the life of an `Available` volume: the one that takes place at the control plane, and the
    one within it that takes place on the host. -/
theorem halves_of_available :
    AttachesAndDetaches timing w options node name device ∧
      ∀ w₁ : World, w₁.node = w.node → MountsAndUnmounts timing w₁ options directory device := by
  cases h with
  | block machine family registered free resolves closed same disk =>
    refine ⟨volume_attachesAndDetaches node hw hname family registered free resolves, ?_⟩
    intro w₁ hnode
    exact volume_mountsAndUnmounts hname family (hnode ▸ hw.hostCalm) (hnode ▸ hw.known)
      (hnode ▸ hw.appears) hw.looks (Cloud.targetName_ne_empty _) (hnode ▸ closed) (hnode ▸ same) disk
  | fileSystem t start located addressed plain free =>
    have family : StorageFamily.ofName? name = some .fileStorage := by
      rw [StorageFamily.ofName?, if_pos start]
    refine ⟨export_attachesAndDetaches node hw hname family located free, ?_⟩
    intro w₁ hnode
    exact export_mountsAndUnmounts hname family (hnode ▸ hw.hostCalm) (hnode ▸ hw.known)
      (hnode ▸ hw.vacant) addressed plain

/-- **The life of a volume.** A volume that is `Available` is attached, mounted as the device that the
    attach answers, unmounted and detached, each with success. Then the mounts are as before, the host knows
    nothing of the device's target (`Node.without`), and of what was made at the control plane there are
    only records (`Cloud.Undone`): the volumes that are bound and the paths that are taken are those of
    before. -/
theorem attach_mount_unmount_detach :
    ∃ w₁ w₂ w₃ w₄ unmounted detached,
      (Route.claim.answer timing (.attach options node)).run World.act w =
        ({ Status.success with device := some device }, w₁) ∧
      (Route.claim.answer timing (.mountDevice directory device options)).run World.act w₁ =
        (.success, w₂) ∧
      (Route.claim.answer timing (.unmountDevice directory)).run World.act w₂ = (unmounted, w₃) ∧
      unmounted.outcome = .success ∧
      (Route.claim.answer timing (.detach name node)).run World.act w₃ = (detached, w₄) ∧
      detached.outcome = .success ∧
      w₄.node.mounts = w.node.mounts ∧ w₄.node.plain = w.node.plain.without device ∧
      w.cloud.Undone w₄.cloud ∧ (∀ v, w₄.cloud.binding v = w.cloud.binding v) ∧
      ∀ t, w₄.cloud.isTaken t = w.cloud.isTaken t := by
  -- The half on the host begins where the attach ends, and the detach begins where it ends.
  obtain ⟨⟨w₁, hattach, hnode₁, hlater⟩, hhost⟩ := halves_of_available hw hname h
  obtain ⟨w₂, w₃, unmounted, hmount, hunmount, hunmounted, ⟨host, clock, rfl⟩, hplain⟩ :=
    hhost w₁ hnode₁
  obtain ⟨w₄, detached, hdetach, hdetached, hnode₄, hundone⟩ := hlater host clock
  have hafter : w₄.node.plain = w.node.plain.without device := by
    rw [hnode₄, ← hnode₁]
    exact hplain
  have hmounts : w₄.node.mounts = w.node.mounts :=
    (congrArg Node.mounts hafter :).trans (Node.mounts_without _ _)
  exact ⟨w₁, w₂, _, w₄, unmounted, detached, hattach, hmount, hunmount, hunmounted, hdetach, hdetached,
    hmounts, hafter, hundone, hundone.binding, hundone.isTaken⟩

end

/-- The world of a volume and a file system, both `Available`, with a directory to mount them at. -/
def mountableWorld : World :=
  { storageWorld with node := { directories := .ofList [("/mnt/a", ())] } }

/-- The session that `mountableWorld` leads to. -/
def mountableSession : Session :=
  ⟨{}, VnicCache.fileName⟩

theorem mountableWorld_inOrder : mountableWorld.InOrder {} mountableSession "/mnt/a" where
  opens := rfl
  calm := by decide
  hostCalm := by decide
  attachments := sound_storageWorld
  exports := soundExports_storageWorld
  size := by decide
  long := by decide
  pages := by decide
  retries := by decide
  looks := by decide
  appears := rfl
  known := by decide
  vacant := rfl

theorem volume_available : Available mountableWorld {} mountableSession (naming "ocid1.volume.a")
    "node-1" "ocid1.volume.a" (deviceOf "ocid1.volume.a") := by
  have resolves : (mountableWorld.setting {} mountableSession).resolve "node-1" =
      .ok ⟨"one", "node-1", .running⟩ :=
    congrArg Prod.fst (Fallible.runs_of_toOption (by decide +kernel))
  exact .block _ (by decide +kernel) (by decide) (by decide) resolves nofun nofun (by decide)

/-- Where the file system of `mountableWorld` is exported. -/
def mountableTarget : ExportTarget :=
  ⟨⟨"ocid1.filesystem.f", "domain", "compartment"⟩, ⟨"target", "domain", "set", ["ip"], .active⟩,
    "10.0.0.2"⟩

theorem fileSystem_available : Available mountableWorld {} mountableSession
    (naming "ocid1.filesystem.f") "node-1" "ocid1.filesystem.f" mountableTarget.path :=
  .fileSystem mountableTarget (by decide) ⟨rfl, rfl, _, _, rfl, rfl⟩ (by decide) (by decide) (by decide)

/-- Both live in `mountableWorld`, the volume as a device and the file system as a path. -/
theorem attach_mount_unmount_detach_mountableWorld :
    (∃ w₁ w₂ w₃ w₄ unmounted detached,
      (Route.claim.answer {} (.attach (naming "ocid1.volume.a") "node-1")).run World.act
        mountableWorld = ({ Status.success with device := some (deviceOf "ocid1.volume.a") }, w₁) ∧
      (Route.claim.answer {} (.mountDevice "/mnt/a" (deviceOf "ocid1.volume.a")
        (naming "ocid1.volume.a"))).run World.act w₁ = (.success, w₂) ∧
      (Route.claim.answer {} (.unmountDevice "/mnt/a")).run World.act w₂ = (unmounted, w₃) ∧
      unmounted.outcome = .success ∧
      (Route.claim.answer {} (.detach "ocid1.volume.a" "node-1")).run World.act w₃ =
        (detached, w₄) ∧
      detached.outcome = .success ∧ w₄.node.mounts = []) ∧
    ∃ w₁ w₂ w₃ w₄ unmounted detached,
      (Route.claim.answer {} (.attach (naming "ocid1.filesystem.f") "node-1")).run World.act
        mountableWorld =
          ({ Status.success with device := some "/mnt/10.0.0.2/ocid1.filesystem.f" }, w₁) ∧
      (Route.claim.answer {} (.mountDevice "/mnt/a" "/mnt/10.0.0.2/ocid1.filesystem.f"
        (naming "ocid1.filesystem.f"))).run World.act w₁ = (.success, w₂) ∧
      (Route.claim.answer {} (.unmountDevice "/mnt/a")).run World.act w₂ = (unmounted, w₃) ∧
      unmounted.outcome = .success ∧
      (Route.claim.answer {} (.detach "ocid1.filesystem.f" "node-1")).run World.act w₃ =
        (detached, w₄) ∧
      detached.outcome = .success ∧ w₄.node.mounts = [] := by
  have hpath : mountableTarget.path = "/mnt/10.0.0.2/ocid1.filesystem.f" := by decide
  constructor
  · obtain ⟨w₁, w₂, w₃, w₄, unmounted, detached, hattach, hmount, hunmount, hunmounted, hdetach,
      hdetached, hmounts, _⟩ :=
      attach_mount_unmount_detach mountableWorld_inOrder rfl volume_available
    exact ⟨w₁, w₂, w₃, w₄, unmounted, detached, hattach, hmount, hunmount, hunmounted, hdetach,
      hdetached, hmounts⟩
  · obtain ⟨w₁, w₂, w₃, w₄, unmounted, detached, hattach, hmount, hunmount, hunmounted, hdetach,
      hdetached, hmounts, _⟩ :=
      attach_mount_unmount_detach mountableWorld_inOrder rfl fileSystem_available
    rw [hpath] at hattach hmount
    exact ⟨w₁, w₂, w₃, w₄, unmounted, detached, hattach, hmount, hunmount, hunmounted, hdetach,
      hdetached, hmounts⟩

/-- The `mountableWorld` with one more mount target in front, that has no address. -/
def bareTargetWorld : World :=
  { mountableWorld with cloud := { mountableWorld.cloud with
      mountTargets := ⟨"bare", "domain", "set", [], .active⟩ :: mountableWorld.cloud.mountTargets } }

/-- An address that is not that of the first active mount target is of no use: in `bareTargetWorld`, which
    is `InOrder`, with no export in the way, a file system does not live although a mount target in its
    domain is active and has an address. -/
theorem attach_at_bareTarget :
    bareTargetWorld.InOrder {} mountableSession "/mnt/a" ∧
    (bareTargetWorld.cloud.fileSystems.find? fun f => f.id = "ocid1.filesystem.f") =
      some mountableTarget.fileSystem ∧
    (∃ m ∈ bareTargetWorld.cloud.mountTargets,
      m.availabilityDomain = mountableTarget.fileSystem.availabilityDomain ∧ m.state = .active ∧
        m.privateIpIds = ["ip"]) ∧
    (bareTargetWorld.cloud.privateIps.find? fun i => i.id = "ip") = some ⟨"ip", "10.0.0.2"⟩ ∧
    bareTargetWorld.cloud.exports = [] ∧
    ((Route.claim.answer {} (.attach (naming "ocid1.filesystem.f") "node-1")).run World.act
      bareTargetWorld).1 = .failure "mount target bare has zero private IPs" := by
  refine ⟨?_, rfl, ⟨mountableTarget.mountTarget, by decide, rfl, rfl, rfl⟩, rfl, rfl, by decide +kernel⟩
  have h := mountableWorld_inOrder
  exact { h with
    attachments := ⟨h.attachments.ids, h.attachments.fresh, h.attachments.unscripted⟩
    exports := ⟨h.exports.ids, h.exports.fresh, h.exports.unscripted⟩
    long := by decide
    pages := by decide }

end VolumeDriver.InMemory
