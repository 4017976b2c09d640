import VolumeDriver.Proofs.Host.ExportAddress
import VolumeDriver.Proofs.Host.IscsiTarget
import VolumeDriver.Proofs.Host.Unmount
import VolumeDriver.Proofs.InMemory.Operations
set_option autoImplicit false

/-! # What is behind the mounts of a host in memory

The devices of a host come and go with the sessions of their targets, so a session must not end while
its device is mounted. `Node.Backed` is what keeps a driver from ending it: a device that is there is the
one that its target's path spells, it is mounted once at most, and what else is mounted is no device at
all. It holds of a host whose mounts are sources that some device strings tell, and operations that are
`Node.Allowed` keep it. -/

namespace VolumeDriver

/-! ## What device strings tell -/

/-- The targets that some device strings spell. -/
def targetsOf (devices : List String) : List IscsiTarget :=
  devices.filterMap fun device => (IscsiTarget.ofDevicePath device).toOption

/-- The sources that some device strings are mounted from as exports. -/
def exportSources (devices : List String) : List String :=
  devices.filterMap fun device =>
    (Host.exportAddress device).toOption.map fun address => address ++ ":" ++ device

theorem mem_targetsOf {devices : List String} {t : IscsiTarget} :
    t ∈ targetsOf devices ↔ ∃ device ∈ devices, IscsiTarget.ofDevicePath device = .ok t := by
  rw [targetsOf, List.mem_filterMap]
  refine exists_congr fun device => and_congr_right fun _ => ?_
  cases IscsiTarget.ofDevicePath device <;> simp [Except.toOption]

theorem mem_exportSources {devices : List String} {source : String} :
    source ∈ exportSources devices ↔ ∃ device ∈ devices, ∃ address,
      Host.exportAddress device = .ok address ∧ source = address ++ ":" ++ device := by
  rw [exportSources, List.mem_filterMap]
  refine exists_congr fun device => and_congr_right fun _ => ?_
  cases Host.exportAddress device <;> simp [Except.toOption, eq_comm]

/-- Device strings that give no name to two different targets, even where a target is read off the source of
    an export. -/
structure Separate (devices : List String) : Prop where
  targets : ∀ t ∈ targetsOf devices, ∀ t' ∈ targetsOf devices, t.iqn = t'.iqn → t = t'
  exports : ∀ t ∈ targetsOf (exportSources devices), ∀ t' ∈ targetsOf devices, t.iqn ≠ t'.iqn

theorem iqn_ne_empty_of_mem {devices : List String} {t : IscsiTarget} (h : t ∈ targetsOf devices) :
    t.iqn ≠ "" := by
  obtain ⟨device, _, htarget⟩ := mem_targetsOf.1 h
  exact IscsiTarget.iqn_ne_empty htarget

/-- The path is one of a target's device. -/
def IsByPath (path : String) : Prop :=
  Cut.startsWith path IscsiTarget.directory = true

instance (path : String) : Decidable (IsByPath path) :=
  inferInstanceAs (Decidable (_ = true))

theorem isByPath_devicePath (t : IscsiTarget) : IsByPath t.devicePath := by
  rw [IsByPath, Cut.startsWith, IscsiTarget.devicePath, String.toList_append, Cut.dropPrefix?_append]
  rfl

/-- The source of an export begins with an address, so it is no `IsByPath`. -/
theorem not_isByPath_of_mem {devices : List String} {source : String}
    (h : source ∈ exportSources devices) : ¬IsByPath source := by
  obtain ⟨device, _, address, haddress, rfl⟩ := mem_exportSources.1 h
  obtain ⟨hempty, hslash⟩ := Host.slash_not_mem_address haddress
  have hlist : address.toList ≠ [] := by simpa using hempty
  obtain ⟨c, rest, hc⟩ := List.exists_cons_of_ne_nil hlist
  have hne : '/' ≠ c := by
    rintro rfl
    exact hslash (hc ▸ List.mem_cons_self)
  have hdirectory : IscsiTarget.directory.toList = '/' :: "dev/disk/by-path/".toList := by
    decide
  rw [IsByPath, Cut.startsWith, hdirectory, String.toList_append, String.toList_append, hc,
    List.cons_append, List.cons_append, Cut.dropPrefix?_cons_ne hne]
  exact Bool.false_ne_true

namespace InMemory

/-! ## Undoing a mount -/

theorem Node.removeLast_sublist (path : String) (table : List MountEntry) :
    (Node.removeLast path table).Sublist table := by
  have h := (List.eraseP_sublist (p := fun e : MountEntry => e.target = path)
    (l := table.reverse)).reverse
  rwa [List.reverse_reverse] at h

/-- The mount that is on top at a directory is the one that `removeLast` undoes there, as long as no
    directory is spelt with a slash at its end. -/
theorem removeLast_top {table : List MountEntry} {path : String} {entry : MountEntry}
    (plainly : ∀ e ∈ table, MountTable.directory e.target = e.target)
    (mounted : (table.any fun e => e.target = path) = true)
    (htop : MountTable.top? table path = some entry) :
    ∃ before after, table = before ++ entry :: after ∧
      Node.removeLast path table = before ++ after := by
  obtain ⟨e, he, htarget⟩ := List.any_eq_true.1 mounted
  have hpath : MountTable.directory path = path := of_decide_eq_true htarget ▸ plainly e he
  obtain ⟨hfound, later, earlier, hreverse, hlater⟩ := List.find?_eq_some_iff_append.1 htop
  have htable : table = earlier.reverse ++ entry :: later.reverse := by
    rw [← List.reverse_reverse table, hreverse]
    simp
  -- The look-up goes by directories and the removal by their spelling, which here is the same.
  have hspelt : ∀ e ∈ table, MountTable.directory e.target = MountTable.directory path ↔
      e.target = path := by
    intro e he
    rw [plainly e he, hpath]
  have hentry : entry.target = path :=
    (hspelt entry (MountTable.mem_of_top? htop)).1 (of_decide_eq_true hfound)
  have hskip : ∀ e ∈ later, ¬decide (e.target = path) = true := by
    intro e he htarget
    have hmem : e ∈ table := by
      rw [htable]
      simp [he]
    have hsame := (hspelt e hmem).2 (of_decide_eq_true htarget)
    have hnot := hlater e he
    simp [hsame] at hnot
  refine ⟨earlier.reverse, later.reverse, htable, ?_⟩
  rw [Node.removeLast, hreverse, List.eraseP_append_right _ hskip,
    List.eraseP_cons_of_pos (by simp [hentry]), List.reverse_append]

/-! ## The invariant -/

/-- What is behind the mounts of a host whose mounts are sources that `devices` tell. -/
structure Node.Backed (devices : List String) (n : Node) : Prop where
  /-- no directory is spelt with a slash at its end -/
  plainly : ∀ d, n.directories.contains d = true → MountTable.directory d = d
  known : ∀ e ∈ n.mounts, n.directories.contains e.target = true
  /-- a device is there because there is a session of the target that its path spells -/
  present : ∀ d, n.devices.contains d = true →
    ∃ t ∈ targetsOf devices, d = t.devicePath ∧ n.sessions.contains t.iqn = true
  /-- what is mounted is an export or a device that is there -/
  sources : ∀ e ∈ n.mounts, e.source ∈ exportSources devices ∨ n.devices.contains e.source = true
  distinct : n.mounts.Pairwise fun a b => IsByPath a.source → a.source ≠ b.source

/-- What keeps an operation from taking away what is behind a mount. -/
def Node.Allowed (devices : List String) (n : Node) : Host.Operation → Prop
  | .login target => target ∈ targetsOf devices
  | .logout target => (∀ e ∈ n.mounts, e.source ≠ target.devicePath) ∧
    ∀ t ∈ targetsOf devices, t.iqn = target.iqn → t = target
  | .formatAndMount device _ _ _ => ∀ e ∈ n.mounts, e.source ≠ device
  | .mount source _ _ _ => source ∈ exportSources devices
  | _ => True

theorem Node.allowed_plain {devices : List String} {n : Node} {o : Host.Operation} :
    n.plain.Allowed devices o ↔ n.Allowed devices o := by
  cases o <;> rfl

namespace Node.Backed

variable {devices : List String} {n : Node}

theorem plain_iff : n.plain.Backed devices ↔ n.Backed devices :=
  ⟨fun h => ⟨h.plainly, h.known, h.present, h.sources, h.distinct⟩,
    fun h => ⟨h.plainly, h.known, h.present, h.sources, h.distinct⟩⟩

/-- One more mount is `Node.Backed` if it is an export, or a device that is there and not mounted yet. -/
theorem mounting (h : n.Backed devices) {source target fsType : String}
    (known : n.directories.contains target = true)
    (hsource : source ∈ exportSources devices ∨
      n.devices.contains source = true ∧ ∀ e ∈ n.mounts, e.source ≠ source) :
    (n.mounting source target fsType).Backed devices := by
  refine ⟨h.plainly, ?_, h.present, ?_, ?_⟩
  · intro e he
    rcases List.mem_append.1 he with he | he
    · exact h.known e he
    · cases List.mem_singleton.1 he
      exact known
  · intro e he
    rcases List.mem_append.1 he with he | he
    · exact h.sources e he
    · cases List.mem_singleton.1 he
      exact hsource.imp_right And.left
  · refine List.pairwise_append.2 ⟨h.distinct, List.pairwise_singleton _ _, ?_⟩
    intro e he e' he' hpath
    cases List.mem_singleton.1 he'
    rcases hsource with hexport | ⟨_, hnew⟩
    · -- An export's source is no path, so it is not the one of `e`.
      intro (heq : e.source = source)
      rw [heq] at hpath
      exact not_isByPath_of_mem hexport hpath
    · exact hnew e he

/-- A session may end when no mount is left of its device. -/
theorem loggedOut (h : n.Backed devices) {target : IscsiTarget}
    (unmounted : ∀ e ∈ n.mounts, e.source ≠ target.devicePath)
    (alone : ∀ t ∈ targetsOf devices, t.iqn = target.iqn → t = target) :
    (n.after (.logout target)).Backed devices := by
  refine ⟨h.plainly, h.known, ?_, ?_, h.distinct⟩
  · intro d hd
    obtain ⟨hne, hd⟩ := (Dictionary.contains_erase_iff ..).1 hd
    obtain ⟨t, ht, rfl, hsession⟩ := h.present d hd
    refine ⟨t, ht, rfl, (Dictionary.contains_erase_iff ..).2 ⟨fun hiqn => hne ?_, hsession⟩⟩
    rw [alone t ht hiqn]
  · intro e he
    refine (h.sources e he).imp_right fun hd => ?_
    exact (Dictionary.contains_erase_iff ..).2 ⟨unmounted e he, hd⟩

/-- A session that begins brings its own device. -/
theorem loggedIn (h : n.Backed devices) {target : IscsiTarget} (ht : target ∈ targetsOf devices) :
    (n.after (.login target)).Backed devices := by
  have hstays : ∀ d, n.devices.contains d = true →
      (n.after (.login target)).devices.contains d = true := by
    intro d hd
    rw [after]
    split
    · exact hd
    · exact (Dictionary.contains_insert_iff ..).2 (.inr hd)
  have hcomes : ∀ d, (n.after (.login target)).devices.contains d = true →
      d = target.devicePath ∨ n.devices.contains d = true := by
    intro d hd
    rw [after] at hd
    split at hd
    · exact .inr hd
    · exact (Dictionary.contains_insert_iff ..).1 hd
  refine ⟨h.plainly, h.known, ?_, ?_, h.distinct⟩
  · intro d hd
    rcases hcomes d hd with rfl | hd
    · exact ⟨target, ht, rfl, (Dictionary.contains_insert_iff ..).2 (.inl rfl)⟩
    · obtain ⟨t, ht, hpath, hsession⟩ := h.present d hd
      exact ⟨t, ht, hpath, (Dictionary.contains_insert_iff ..).2 (.inr hsession)⟩
  · exact fun e he => (h.sources e he).imp_right (hstays e.source)

/-- To undo a mount leaves the others as they are. -/
theorem unmounted (h : n.Backed devices) (path : String) :
    (n.after (.unmount path)).Backed devices := by
  have hleft : (removeLast path n.mounts).Sublist n.mounts := removeLast_sublist path n.mounts
  exact ⟨h.plainly, fun e he => h.known e (hleft.subset he), h.present,
    fun e he => h.sources e (hleft.subset he), h.distinct.sublist hleft⟩

/-- **What is behind mounts stays** through every operation that is `Node.Allowed`. -/
theorem operate (h : n.Backed devices) {o : Host.Operation} (ho : n.Allowed devices o) :
    (n.operate o).2.Backed devices := by
  have houtcome := n.outcome_operate o
  rw [Outcome] at houtcome
  rw [← plain_iff]
  split at houtcome
  · obtain ⟨hbrings, hafter⟩ := houtcome
    rw [hafter]
    have h := plain_iff.2 h
    cases o with
    | login target => exact h.loggedIn ho
    | logout target => exact h.loggedOut ho.1 ho.2
    | formatAndMount device target fsType options =>
      exact h.mounting hbrings.2 (.inr ⟨hbrings.1, ho⟩)
    | mount source target fsType options => exact h.mounting hbrings (.inl ho)
    | unmount target => exact h.unmounted target
    | _ => exact ⟨h.plainly, h.known, h.present, h.sources, h.distinct⟩
  · rw [houtcome]
    exact plain_iff.2 h

/-- The path of a target's device spells it, so no other target has the same path. -/
theorem target_of_present (h : n.Backed devices) {path : String} {target : IscsiTarget}
    (hpath : n.devices.contains path = true) (link : IscsiTarget.ofDevicePath path = .ok target) :
    target ∈ targetsOf devices ∧ path = target.devicePath := by
  obtain ⟨t, ht, rfl, _⟩ := h.present path hpath
  rw [IscsiTarget.ofDevicePath_devicePath (iqn_ne_empty_of_mem ht)] at link
  cases link
  exact ⟨ht, rfl⟩

/-- A device that is mounted is mounted once, so when that mount is undone its session may end. -/
theorem allowed_logout (h : n.Backed devices) (separate : Separate devices) {path : String}
    {entry : MountEntry} {target : IscsiTarget}
    (htop : MountTable.top? n.mounts path = some entry)
    (link : IscsiTarget.ofDevicePath entry.source = .ok target)
    (mounted : (n.mounts.any fun e => e.target = path) = true) :
    (n.after (.unmount path)).Allowed devices (.logout target) := by
  have plainly : ∀ e ∈ n.mounts, MountTable.directory e.target = e.target :=
    fun e he => h.plainly e.target (h.known e he)
  obtain ⟨before, after, htable, hleft⟩ := removeLast_top plainly mounted htop
  have hmem : ∀ e ∈ before ++ after, e ∈ n.mounts := by
    intro e he
    rw [htable]
    rcases List.mem_append.1 he with he | he <;> simp [he]
  have htarget : IscsiTarget.ofDevicePath target.devicePath = .ok target :=
    IscsiTarget.ofDevicePath_devicePath (IscsiTarget.iqn_ne_empty link)
  show (∀ e ∈ removeLast path n.mounts, e.source ≠ target.devicePath) ∧ _
  rw [hleft]
  rcases h.sources entry (MountTable.mem_of_top? htop) with hexport | hdevice
  · -- The target is read off an export's source, and has a name that no device's target has.
    have hforeign := separate.exports target (mem_targetsOf.2 ⟨_, hexport, link⟩)
    refine ⟨fun e he heq => ?_, fun t ht hiqn => absurd hiqn.symm (hforeign t ht)⟩
    rcases h.sources e (hmem e he) with hexport' | hdevice'
    · exact not_isByPath_of_mem hexport' (heq ▸ isByPath_devicePath target)
    · rw [heq] at hdevice'
      exact hforeign target (h.target_of_present hdevice' htarget).1 rfl
  · -- The target is the one of the device that was mounted, and no other mount is of that device.
    obtain ⟨ht, hpath⟩ := h.target_of_present hdevice link
    refine ⟨fun e he heq => ?_, fun t ht' hiqn => separate.targets t ht' target ht hiqn⟩
    have hdistinct := h.distinct
    rw [htable, List.pairwise_append] at hdistinct
    obtain ⟨_, hentry, hbefore⟩ := hdistinct
    have hsame : e.source = entry.source := heq.trans hpath.symm
    have hby : IsByPath entry.source := hpath ▸ isByPath_devicePath target
    rcases List.mem_append.1 he with he | he
    · exact hbefore e he entry List.mem_cons_self (hsame ▸ hby) hsame
    · exact (List.pairwise_cons.1 hentry).1 e he hby hsame.symm

end Node.Backed

/-! ## What a backed host looks like -/

/-- There is a session of the target of a device, and the device is there. -/
def Node.Holds (n : Node) (path : String) : Prop :=
  n.devices.contains path = true ∧
    match IscsiTarget.ofDevicePath path with
    | .ok target => n.sessions.contains target.iqn = true
    | .error _ => False

instance (n : Node) (path : String) : Decidable (n.Holds path) :=
  match h : IscsiTarget.ofDevicePath path with
  | .ok target =>
    decidable_of_iff (n.devices.contains path = true ∧ n.sessions.contains target.iqn = true)
      (by rw [Node.Holds, h])
  | .error _ => isFalse (by simp [Node.Holds, h])

/-- Every device that is mounted is there, with a session of its target (`Node.Holds`), and is mounted
    once. -/
def Node.SessionsHeld (n : Node) : Prop :=
  (∀ e ∈ n.mounts, IsByPath e.source → n.Holds e.source) ∧
    ((n.mounts.map (·.source)).filter fun source => IsByPath source).Nodup

instance (n : Node) : Decidable n.SessionsHeld :=
  inferInstanceAs (Decidable (_ ∧ _))

theorem Node.Backed.sessionsHeld {devices : List String} {n : Node} (h : n.Backed devices) :
    n.SessionsHeld := by
  constructor
  · intro e he hpath
    rcases h.sources e he with hexport | hdevice
    · exact absurd hpath (not_isByPath_of_mem hexport)
    · refine ⟨hdevice, ?_⟩
      obtain ⟨t, ht, heq, hsession⟩ := h.present e.source hdevice
      rw [heq, IscsiTarget.ofDevicePath_devicePath (iqn_ne_empty_of_mem ht)]
      exact hsession
  · rw [List.Nodup, List.pairwise_filter, List.pairwise_map]
    exact h.distinct.imp fun hab hpath _ => hab (of_decide_eq_true hpath)

/-- A directory that is not spelt with a slash at its end stands for itself. -/
theorem directory_eq_self {path : String} (h : path.toList.getLast? ≠ some '/') :
    MountTable.directory path = path := by
  have hdrop : Cut.dropEnd '/' path.toList = path.toList := by
    rw [← List.head?_reverse] at h
    rw [Cut.dropEnd]
    cases hreverse : path.toList.reverse with
    | nil => simpa using hreverse.symm
    | cons c rest =>
      have hc : c ≠ '/' := by simpa [hreverse] using h
      rw [List.dropWhile_cons_of_neg (by simp [hc]), ← hreverse, List.reverse_reverse]
  rw [MountTable.directory, hdrop, String.ofList_toList]

/-- A host without mounts and devices is `Node.Backed`. -/
theorem Node.backed_of_empty {devices : List String} {n : Node} (hmounts : n.mounts = [])
    (hdevices : n.devices = .empty)
    (plainly : ∀ d, n.directories.contains d = true → d.toList.getLast? ≠ some '/') :
    n.Backed devices := by
  refine ⟨fun d hd => directory_eq_self (plainly d hd), ?_, ?_, ?_, ?_⟩
  · simp [hmounts]
  · intro d hd
    rw [hdevices] at hd
    cases hd
  · simp [hmounts]
  · simp [hmounts]

end InMemory

end VolumeDriver
