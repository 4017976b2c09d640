import VolumeDriver.Proofs.InMemory.Node
set_option autoImplicit false

/-! # What operations do to a host in memory

An operation that fails changes nothing that a later one could see but the file systems on devices, for
a device may be formatted and the mount after it fail. What one makes of a host that succeeds is
`Node.after`. What is true of hosts step by step follows from these two and not from the answers
themselves. -/

namespace VolumeDriver.InMemory

open Host

namespace Node

/-- The host without its records and without what is on its devices. -/
def plain (n : Node) : Node :=
  { n with fileSystems := .empty, failures := .empty, calls := [], formats := 0 }

@[simp] theorem plain_mounts (n : Node) : n.plain.mounts = n.mounts := rfl

@[simp] theorem plain_directories (n : Node) : n.plain.directories = n.directories := rfl

/-- The path that a device is found under, if it spells a target. -/
def link? (device : String) : Option String :=
  match IscsiTarget.ofDevicePath device with
  | .ok _ => some device
  | .error _ => none

theorem link?_of_ok {device : String} {target : IscsiTarget}
    (h : IscsiTarget.ofDevicePath device = .ok target) : link? device = some device := by
  rw [link?, h]

theorem link?_of_error {device : String} {fault : IscsiTarget.Fault}
    (h : IscsiTarget.ofDevicePath device = .error fault) : link? device = none := by
  rw [link?, h]

/-- What is found under a path is that path, and it spells a target. -/
theorem eq_of_link? {device link : String} (h : link? device = some link) :
    link = device ∧ ∃ target, IscsiTarget.ofDevicePath device = .ok target := by
  rw [link?] at h
  split at h
  · rename_i target htarget
    exact ⟨(Option.some.inj h).symm, target, htarget⟩
  · cases h

/-- The host with one more mount. -/
def mounting (n : Node) (source target fsType : String) : Node :=
  { n with mounts := n.mounts ++ [⟨source, target, fsType⟩] }

/-- The host after an operation that succeeds. -/
def after (n : Node) : Operation → Node
  | .addRecord target => { n with records := n.records.insert target.iqn () }
  | .setAutomaticLogin target =>
    { n with automaticLogins := n.automaticLogins.insert target.iqn () }
  | .login target =>
    { n with
      sessions := n.sessions.insert target.iqn ()
      devices := if n.withholdsDevices then n.devices else n.devices.insert target.devicePath () }
  | .logout target =>
    { n with
      sessions := n.sessions.erase target.iqn
      devices := n.devices.erase target.devicePath }
  | .removeRecord target =>
    { n with
      records := n.records.erase target.iqn
      automaticLogins := n.automaticLogins.erase target.iqn }
  | .formatAndMount device target fsType _ => n.mounting device target fsType
  | .mount source target fsType _ => n.mounting source target fsType
  | .unmount target => { n with mounts := removeLast target n.mounts }
  | .deviceExists _ | .deviceOpened _ | .byPathLink _ | .mounts => n

/-- What an operation takes to succeed, and what it then brings. -/
def Brings (n : Node) : (o : Operation) → o.Value → Prop
  | .setAutomaticLogin target, _ => n.records.contains target.iqn = true
  | .deviceExists device, found => found = n.devices.contains device
  | .deviceOpened device, opened => opened = n.mounts.any fun e => e.source = device
  | .byPathLink device, link => link = link? device
  | .formatAndMount device target _ _, _ =>
    n.devices.contains device = true ∧ n.directories.contains target = true
  | .mounts, table => table = n.mounts
  | .mount _ target _ _, _ => n.directories.contains target = true
  | .unmount target, _ => (n.mounts.any fun e => e.target = target) = true
  | .addRecord _, _ | .login _, _ | .logout _, _ | .removeRecord _, _ => True

/-- What an operation may come to: a fault that does not show, or its value and its effect. -/
def Outcome (n : Node) (o : Operation) (result : Except Fault o.Value × Node) : Prop :=
  match result.1 with
  | .ok value => n.plain.Brings o value ∧ result.2.plain = n.plain.after o
  | .error _ => result.2.plain = n.plain

theorem Outcome.of_plain {n m : Node} {o : Operation} {result : Except Fault o.Value × Node}
    (hplain : m.plain = n.plain) (h : m.Outcome o result) : n.Outcome o result := by
  rwa [Outcome, hplain] at h

/-- To put an operation on record does not show in `plain`. -/
theorem plain_record (n : Node) (o : Operation) : (n.record o).2.plain = n.plain :=
  rfl

theorem outcome_mount (n : Node) (source target fsType : String) (options : List String) :
    n.Outcome (.mount source target fsType options) (n.mount source target fsType) := by
  rw [mount]
  split
  · rename_i known
    exact ⟨known, rfl⟩
  · rfl

theorem outcome_unmount (n : Node) (target : String) :
    n.Outcome (.unmount target) (n.unmount target) := by
  rw [unmount]
  split
  · rename_i mounted
    exact ⟨mounted, rfl⟩
  · rfl

/-- To `format` a device does not show in `plain`, and takes the device. -/
theorem format_cases (n : Node) (device fsType : String) :
    (n.format device fsType).2.plain = n.plain ∧
      ((n.format device fsType).1 = .ok () → n.devices.contains device = true) := by
  rw [format]
  split
  · rename_i present
    refine ⟨?_, fun _ => present⟩
    split
    · rfl
    · split <;> rfl
  · exact ⟨rfl, nofun⟩

/-- The mount after formatting is an operation of its own, with the same effect. -/
theorem outcome_formatAndMount (n : Node) (device target fsType : String) (options : List String) :
    n.Outcome (.formatAndMount device target fsType options)
      (n.respond (.formatAndMount device target fsType options)) := by
  obtain ⟨hplain, present⟩ := n.format_cases device fsType
  rw [respond]
  rcases hformat : n.format device fsType with ⟨fault | value, m⟩
  · rw [hformat] at hplain
    exact hplain
  · rw [hformat] at hplain present
    refine Outcome.of_plain hplain ?_
    -- The mount is put on record by itself, and so may be made to fail when the device is formatted.
    have hrecord := plain_record m (.mount device target fsType options)
    have present : m.plain.devices.contains device = true := hplain ▸ present rfl
    rcases hm : m.record (.mount device target fsType options) with ⟨_ | fault, m'⟩
    · rw [hm] at hrecord
      refine Outcome.of_plain hrecord ?_
      simp only [hm]
      rw [mount]
      split
      · rename_i known
        exact ⟨⟨hrecord ▸ present, known⟩, rfl⟩
      · rfl
    · rw [hm] at hrecord
      simp only [hm]
      exact hrecord

theorem outcome_respond (n : Node) (o : Operation) : n.Outcome o (n.respond o) := by
  cases o with
  | setAutomaticLogin target =>
    simp only [respond]
    split
    · rename_i known
      exact ⟨known, rfl⟩
    · rfl
  | byPathLink device =>
    simp only [respond]
    split
    · rename_i hlink
      exact ⟨(link?_of_ok hlink).symm, rfl⟩
    · rename_i hlink
      exact ⟨(link?_of_error hlink).symm, rfl⟩
  | formatAndMount device target fsType options => exact outcome_formatAndMount ..
  | mount source target fsType options => exact outcome_mount ..
  | unmount target => exact outcome_unmount ..
  | addRecord target => exact ⟨trivial, rfl⟩
  | login target => exact ⟨trivial, rfl⟩
  | logout target => exact ⟨trivial, rfl⟩
  | removeRecord target => exact ⟨trivial, rfl⟩
  | deviceExists device => exact ⟨rfl, rfl⟩
  | deviceOpened device => exact ⟨rfl, rfl⟩
  | mounts => exact ⟨rfl, rfl⟩

/-- **What an operation does:** what `operate` comes to is an `Outcome`. -/
theorem outcome_operate (n : Node) (o : Operation) : n.Outcome o (n.operate o) := by
  have hrecord := plain_record n o
  rw [operate]
  rcases hm : n.record o with ⟨_ | fault, m⟩
  · rw [hm] at hrecord
    exact .of_plain hrecord (outcome_respond m o)
  · rw [hm] at hrecord
    exact hrecord

variable {n n' : Node} {o : Operation}

theorem effect_of_operate {value : o.Value} (h : n.operate o = (.ok value, n')) :
    n.plain.Brings o value ∧ n'.plain = n.plain.after o := by
  have houtcome := outcome_operate n o
  rwa [h] at houtcome

/-- What does not show in an operation that succeeds does not show in one that may fail. -/
theorem plain_operate (n : Node) (o : Operation) :
    (n.operate o).2.plain = n.plain ∨ (n.operate o).2.plain = n.plain.after o := by
  have houtcome := outcome_operate n o
  rw [Outcome] at houtcome
  split at houtcome
  · exact .inr houtcome.2
  · exact .inl houtcome

/-- No operation makes or removes a directory. -/
theorem directories_operate (n : Node) (o : Operation) :
    (n.operate o).2.directories = n.directories := by
  have hafter : (n.plain.after o).directories = n.directories := by
    cases o <;> rfl
  rcases plain_operate n o with h | h
  · exact (congrArg Node.directories h :)
  · exact (congrArg Node.directories h :).trans hafter

/-- The operation makes or undoes a mount. -/
def ChangesMounts : Operation → Prop
  | .formatAndMount .. | .mount .. | .unmount _ => True
  | _ => False

theorem mounts_operate (n : Node) {o : Operation} (ho : ¬ChangesMounts o) :
    (n.operate o).2.mounts = n.mounts := by
  have hafter : (n.plain.after o).mounts = n.mounts := by
    cases o <;> first | rfl | exact absurd trivial ho
  rcases plain_operate n o with h | h
  · exact (congrArg Node.mounts h :)
  · exact (congrArg Node.mounts h :).trans hafter

/-- What is on devices only changes with a format. -/
theorem fileSystems_operate (n : Node) {o : Operation} (ho : ¬ChangesMounts o) :
    (n.operate o).2.fileSystems = n.fileSystems := by
  -- What is on devices does not show, so this does not follow from `plain_operate`.
  rcases operate_cases n o with ⟨fault, h⟩ | h
  · rw [h]
    rfl
  · rw [h]
    cases o with
    | setAutomaticLogin target =>
      simp only [respond]
      split <;> rfl
    | byPathLink device =>
      simp only [respond]
      split <;> rfl
    | formatAndMount device target fsType options => exact absurd trivial ho
    | mount source target fsType options => exact absurd trivial ho
    | unmount target => exact absurd trivial ho
    | _ => rfl

/-! ## Hosts on which nothing fails -/

theorem failures_format (n : Node) (device fsType : String) :
    (n.format device fsType).2.failures = n.failures := by
  rw [format]
  split
  · split
    · rfl
    · split <;> rfl
  · rfl

theorem failures_mount (n : Node) (source target fsType : String) :
    (n.mount source target fsType).2.failures = n.failures := by
  rw [mount]
  split <;> rfl

theorem record_calm (h : n.Calm) (o : Operation) : n.record o = (none, n.noted o) := by
  simp only [record, h.pop, noted]

theorem Calm.formatAndMount (h : n.Calm) (device target fsType : String) (options : List String) :
    (n.respond (.formatAndMount device target fsType options)).2.Calm := by
  have hformat : (n.format device fsType).2.Calm := by
    rw [Calm, failures_format]
    exact h
  rw [respond]
  rcases hn : n.format device fsType with ⟨fault | value, m⟩
  · rw [hn] at hformat
    exact hformat
  · rw [hn] at hformat
    simp only [record_calm hformat]
    rw [Calm, failures_mount]
    exact hformat

/-- Operations on a host that is `Calm` do not make later ones fail. -/
theorem Calm.operate (h : n.Calm) (o : Operation) : (n.operate o).2.Calm := by
  rw [operate_calm h]
  cases o with
  | setAutomaticLogin target =>
    simp only [respond]
    split <;> exact h
  | byPathLink device =>
    simp only [respond]
    split <;> exact h
  | formatAndMount device target fsType options =>
    have hnoted := h.noted (.formatAndMount device target fsType options)
    exact hnoted.formatAndMount device target fsType options
  | mount source target fsType options =>
    rw [Calm, respond, failures_mount]
    exact h
  | unmount target =>
    simp only [respond, unmount]
    split <;> exact h
  | _ => exact h

/-- What an operation takes to succeed where nothing is made to fail. -/
def Ready (n : Node) : Operation → Prop
  | .setAutomaticLogin target => n.records.contains target.iqn = true
  | .formatAndMount device target fsType _ => n.devices.contains device = true ∧
    n.directories.contains target = true ∧
    ∀ existing, n.fileSystems.get? device = some existing → existing = fsType
  | .mount _ target _ _ => n.directories.contains target = true
  | .unmount target => (n.mounts.any fun e => e.target = target) = true
  | _ => True

theorem format_ready {device fsType : String} (present : n.devices.contains device = true)
    (same : ∀ existing, n.fileSystems.get? device = some existing → existing = fsType) :
    (n.format device fsType).1 = .ok () := by
  rw [format, if_pos present]
  split
  · rfl
  · rename_i existing hexisting
    rw [if_pos (same existing hexisting)]

theorem mount_ready {source target fsType : String} (known : n.directories.contains target = true) :
    (n.mount source target fsType).1 = .ok () := by
  rw [mount, if_pos known]

theorem formatAndMount_ready (h : n.Calm) {device target fsType : String} (options : List String)
    (present : n.devices.contains device = true) (known : n.directories.contains target = true)
    (same : ∀ existing, n.fileSystems.get? device = some existing → existing = fsType) :
    ∃ value, (n.respond (.formatAndMount device target fsType options)).1 = .ok value := by
  have hok := format_ready present same
  have hplain := (n.format_cases device fsType).1
  have hcalm : (n.format device fsType).2.Calm := by
    rw [Calm, failures_format]
    exact h
  rw [respond]
  rcases hm : n.format device fsType with ⟨fault | value, m⟩
  · rw [hm] at hok
    cases hok
  · rw [hm] at hplain hcalm
    have hknown : m.directories.contains target = true := by
      rw [← plain_directories, hplain]
      exact known
    simp only [record_calm hcalm]
    exact ⟨(), mount_ready hknown⟩

/-- Where nothing is made to fail, an operation that is `Ready` succeeds. -/
theorem operate_ready (h : n.Calm) (ready : n.Ready o) : ∃ value, (n.operate o).1 = .ok value := by
  rw [operate_calm h]
  cases o with
  | setAutomaticLogin target =>
    have known : (n.noted (.setAutomaticLogin target)).records.contains target.iqn = true := ready
    simp only [respond, if_pos known]
    exact ⟨(), rfl⟩
  | byPathLink device =>
    simp only [respond]
    split <;> exact ⟨_, rfl⟩
  | formatAndMount device target fsType options =>
    exact formatAndMount_ready (h.noted (.formatAndMount device target fsType options)) options
      ready.1 ready.2.1 ready.2.2
  | mount source target fsType options => exact ⟨(), mount_ready ready⟩
  | unmount target =>
    have mounted : ((n.noted (.unmount target)).mounts.any fun e => e.target = target) = true := ready
    simp only [respond, unmount, if_pos mounted]
    exact ⟨(), rfl⟩
  | _ => exact ⟨_, rfl⟩

/-- An operation that is `Ready` has its effect, and later ones may have theirs. -/
theorem operate_ok (h : n.Calm) (ready : n.Ready o) :
    ∃ value m, n.operate o = (.ok value, m) ∧ m.Calm ∧ n.plain.Brings o value ∧
      m.plain = n.plain.after o := by
  obtain ⟨value, hvalue⟩ := operate_ready h ready
  have hrun : n.operate o = (.ok value, (n.operate o).2) := Prod.ext hvalue rfl
  exact ⟨value, _, hrun, h.operate o, effect_of_operate hrun⟩

end Node

theorem effect_of_runs {o : Operation} {w w' : World} {value : o.Value}
    (h : Fallible.runs World.hostAnswer (operate o) w = (.ok value, w')) :
    w.node.plain.Brings o value ∧ w'.node.plain = w.node.plain.after o := by
  rw [runs_operate] at h
  have hvalue : (w.node.operate o).1 = .ok value := congrArg Prod.fst h
  have hnode : (w.node.operate o).2 = w'.node := congrArg (fun run => run.2.node) h
  exact Node.effect_of_operate (Prod.ext hvalue hnode)

end VolumeDriver.InMemory
