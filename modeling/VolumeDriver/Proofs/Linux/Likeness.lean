import VolumeDriver.Proofs.InMemory.Operations
import VolumeDriver.Proofs.Linux.FormatAndMount
set_option autoImplicit false

/-! # The host in memory beside Linux

What is done with a device depends on what it holds and on the type that is asked for (`treatment`). A host
in memory and a Linux machine whose commands do their work treat a device alike where a type is asked for.
Where none is, Linux takes its default, and the host in memory takes the empty name for a type like any
other: it has to be asked for the default by its name. -/

namespace VolumeDriver.InMemory

open Linux

/-! ## What is done with a device -/

/-- What a device is formatted and mounted with, if it is, and what that comes to. -/
structure Treatment where
  formatted : Option String
  mounted : Option String
  result : Except Host.Fault Unit

/-- What is done with a device that holds a file system or nothing, where one of a type is asked for. -/
def treatment (device requested : String) : Option String → Treatment
  | none => ⟨some requested, some requested, .ok ()⟩
  | some existing =>
    if existing = requested then ⟨none, some requested, .ok ()⟩
    else ⟨none, none, .error (.filesystemMismatch device existing requested)⟩

section

variable {device target requested existing : String} {content : Option String} {options : List String}

theorem treatment_same : treatment device requested (some requested) =
    ⟨none, some requested, .ok ()⟩ :=
  if_pos rfl

theorem treatment_other (h : existing ≠ requested) : treatment device requested (some existing) =
    ⟨none, none, .error (.filesystemMismatch device existing requested)⟩ :=
  if_neg h

/-- In a `treatment`, a device is put to use, or left alone for the file system that it holds. -/
theorem result_treatment (device requested : String) (content : Option String) :
    (treatment device requested content).result = .ok () ∨ ∃ existing requested',
      (treatment device requested content).result =
        .error (.filesystemMismatch device existing requested') := by
  cases content with
  | none => exact .inl rfl
  | some existing =>
    by_cases hsame : existing = requested
    · subst hsame
      rw [treatment_same]
      exact .inl rfl
    · rw [treatment_other hsame]
      exact .inr ⟨existing, requested, rfl⟩

/-! ## On the host in memory -/

namespace Node

variable {n m : Node} {o : Host.Operation}

/-- What a host in memory comes to that gives a device the treatment `t`. -/
structure Treats (n : Node) (device target : String) (t : Treatment)
    (run : Except Host.Fault Unit × Node) : Prop where
  result : run.1 = t.result
  fileSystems : run.2.fileSystems = t.formatted.elim n.fileSystems (n.fileSystems.insert device)
  formats : run.2.formats = n.formats + t.formatted.toList.length
  mounts : run.2.mounts = n.mounts ++ t.mounted.toList.map fun fsType => ⟨device, target, fsType⟩

/-- The device and the directory are there, and nothing that is done with them is made to fail. -/
structure Furnished (n : Node) (device target : String) : Prop where
  device : n.devices.contains device = true
  directory : n.directories.contains target = true
  formats : (n.failures.pop "format_and_mount").1 = none
  mounts : (n.failures.pop "mount").1 = none

instance (n : Node) (device target : String) : Decidable (n.Furnished device target) :=
  decidable_of_iff
    (n.devices.contains device = true ∧ n.directories.contains target = true ∧
      (n.failures.pop "format_and_mount").1 = none ∧ (n.failures.pop "mount").1 = none)
    ⟨fun ⟨hdevice, hdirectory, hformats, hmounts⟩ => ⟨hdevice, hdirectory, hformats, hmounts⟩,
      fun h => ⟨h.device, h.directory, h.formats, h.mounts⟩⟩

/-- An operation that is not made to fail is put on record and nothing else. -/
theorem record_of_pop (h : (n.failures.pop (operationName o)).1 = none) :
    n.record o = (none, n.noted o) := by
  have hpop : n.failures.pop (operationName o) = (none, n.failures) := by
    unfold Dictionary.pop at h ⊢
    split at h <;> simp_all
  simp only [record, hpop, noted]

theorem mount_of_directory (h : n.directories.contains target = true) (source fsType : String) :
    n.mount source target fsType = (.ok (), n.mounting source target fsType) := by
  rw [mount, if_pos h]
  rfl

/-- Once a device holds what is asked for (`Node.format`) it is mounted. -/
theorem formatAndMount_of_format (hformat : n.format device requested = (.ok (), m))
    (hdirectory : m.directories.contains target = true)
    (hmounts : (m.failures.pop "mount").1 = none) :
    n.respond (.formatAndMount device target requested options) =
      (.ok (), (m.noted (.mount device target requested options)).mounting device target requested) := by
  rw [respond, hformat]
  simp only [record_of_pop (o := .mount device target requested options) hmounts]
  exact mount_of_directory (n := m.noted (.mount device target requested options)) hdirectory device
    requested

/-- **A host in memory gives a device the `treatment` of the type that is asked for.** -/
theorem treats_operate (h : n.Furnished device target) (requested : String) (options : List String) :
    n.Treats device target (treatment device requested (n.fileSystems.get? device))
      (n.operate (.formatAndMount device target requested options)) := by
  have hoperate : n.operate (.formatAndMount device target requested options) =
      (n.noted (.formatAndMount device target requested options)).respond
        (.formatAndMount device target requested options) := by
    rw [operate, record_of_pop h.formats]
  rw [hoperate]
  cases hcontent : n.fileSystems.get? device with
  | none =>
    have hformat : (n.noted (.formatAndMount device target requested options)).format device
        requested = (.ok (), { n.noted (.formatAndMount device target requested options) with
          fileSystems := n.fileSystems.insert device requested
          formats := n.formats + 1 }) := by
      simp only [format, noted, h.device, if_true, hcontent]
    rw [formatAndMount_of_format hformat h.directory h.mounts]
    exact ⟨rfl, rfl, rfl, rfl⟩
  | some existing =>
    by_cases hsame : existing = requested
    · subst hsame
      have hformat : (n.noted (.formatAndMount device target existing options)).format device
          existing = (.ok (), n.noted (.formatAndMount device target existing options)) := by
        simp only [format, noted, h.device, if_true, hcontent]
      rw [formatAndMount_of_format hformat h.directory h.mounts, treatment_same]
      exact ⟨rfl, rfl, rfl, rfl⟩
    · have hformat : (n.noted (.formatAndMount device target requested options)).format device
          requested = (.error (.filesystemMismatch device existing requested),
            n.noted (.formatAndMount device target requested options)) := by
        simp only [format, noted, h.device, if_true, hcontent, if_neg hsame]
      rw [respond, hformat, treatment_other hsame]
      exact ⟨rfl, rfl, rfl, (List.append_nil _).symm⟩

end Node

/-! ## On Linux -/

namespace Machine

variable {m : Machine} {outcome : List Command → Command → CommandOutput} {command : Command}

/-- How a machine answers whose commands come to what `outcome` says, by the commands before them. -/
def answerBy (outcome : List Command → Command → CommandOutput) (action : Linux.signature.Action)
    (m : Machine) : Linux.signature.Answer action × Machine :=
  match action with
  | .run command =>
    (.ok (outcome m.commands command), { m with commands := m.commands ++ [command] })
  | action => m.respond action

/-- What a Linux machine comes to that gives a device the treatment `t`. -/
structure Treats (m : Machine) (device target : String) (options : List String) (t : Treatment)
    (run : Except Host.Fault Unit × Machine) : Prop where
  result : run.1 = t.result
  commands : run.2.commands = m.commands ++ probeCommand device ::
    (t.formatted.toList.map (formatCommand device) ++
      t.mounted.toList.map fun fsType => mountCommand device target fsType options)

/-- A probe tells what a device holds: nothing by its exit code, a type by its name, after which blanks may
    follow such as the end of the line. -/
def Tells (output : CommandOutput) : Option String → Prop
  | none => output.code = some nothingFound
  | some existing => output.code = some 0 ∧ ∃ blanks : String,
      Blank.isBlankText blanks = true ∧ output.output = existing ++ blanks

/-- The commands do their work: the probe `Tells` what the device holds, and what formats and mounts it
    succeeds. -/
structure Works (outcome : List Command → Command → CommandOutput) (before : List Command)
    (device target : String) (content : Option String) : Prop where
  probes : Tells (outcome before (probeCommand device)) content
  formats : ∀ before fsType, (outcome before (formatCommand device fsType)).code = some 0
  mounts : ∀ before fsType options,
    (outcome before (mountCommand device target fsType options)).code = some 0

theorem runs_succeed_answerBy (h : (outcome m.commands command).code = some 0) :
    Fallible.runs (answerBy outcome) (succeed command.program command.args) m =
      (.ok (outcome m.commands command), { m with commands := m.commands ++ [command] }) := by
  have hrequire : (outcome m.commands command).requireSuccess command.program =
      .ok (outcome m.commands command) := by
    simp [CommandOutput.requireSuccess, CommandOutput.isSuccess, h]
  have hrun : Fallible.runs (answerBy outcome) (runCommand command.program command.args) m =
      (.ok (outcome m.commands command), { m with commands := m.commands ++ [command] }) := rfl
  unfold succeed
  rw [Fallible.runs_bind_ok hrun, Fallible.runs_ofExcept, hrequire]

/-- Commands that all succeed are all run by `inTurn`. -/
theorem runs_inTurn_answerBy {commands : List Command}
    (h : ∀ before, ∀ command ∈ commands, (outcome before command).code = some 0) (m : Machine) :
    Fallible.runs (answerBy outcome) (inTurn commands) m =
      (.ok (), { m with commands := m.commands ++ commands }) := by
  induction commands generalizing m with
  | nil => rw [List.append_nil]; rfl
  | cons command commands ih =>
    have hfirst := h m.commands command List.mem_cons_self
    unfold inTurn
    rw [Fallible.runs_bind_ok (runs_succeed_answerBy hfirst),
      ih fun before command hcommand => h before command (List.mem_cons_of_mem _ hcommand)]
    simp only [List.append_assoc, List.singleton_append]

theorem runs_probe_answerBy (h : Tells (outcome m.commands (probeCommand device)) content)
    (hword : ∀ existing ∈ content, Blank.IsWord existing.toList) :
    Fallible.runs (answerBy outcome) (probe device) m =
      (.ok content, { m with commands := m.commands ++ [probeCommand device] }) := by
  have hrun : Fallible.runs (answerBy outcome)
      (runCommand (probeCommand device).program (probeCommand device).args) m =
        (.ok (outcome m.commands (probeCommand device)),
          { m with commands := m.commands ++ [probeCommand device] }) := rfl
  unfold probe
  refine (Fallible.runs_bind_ok hrun).trans ?_
  cases content with
  | none =>
    have hcode : (outcome m.commands (probeCommand device)).code = some nothingFound := h
    rw [if_pos hcode]
    rfl
  | some existing =>
    obtain ⟨hcode, blanks, hblanks, houtput⟩ := h
    have hexisting := hword existing rfl
    have hsome : existing ≠ "" := by
      rintro rfl
      exact hexisting.1 rfl
    have hrequire : (outcome m.commands (probeCommand device)).requireSuccess "blkid" =
        .ok (outcome m.commands (probeCommand device)) := by
      simp [CommandOutput.requireSuccess, CommandOutput.isSuccess, hcode]
    rw [if_neg (by rw [hcode]; decide), hrequire]
    show (Except.ok (if Blank.trimmed (outcome m.commands (probeCommand device)).output = "" then none
      else some (Blank.trimmed (outcome m.commands (probeCommand device)).output)), _) = _
    rw [houtput, Blank.trimmed_append hexisting hblanks, if_neg hsome]

/-- **Linux gives a device the `treatment` of the type that is asked for,** or of its default where none
    is. -/
theorem treats_formatAndMount (h : Works outcome m.commands device target content)
    (hword : ∀ existing ∈ content, Blank.IsWord existing.toList) (fsType : String)
    (options : List String) :
    m.Treats device target options (treatment device (requestedType fsType) content)
      (Fallible.runs (answerBy outcome) (formatAndMount device target fsType options) m) := by
  rw [formatAndMount_eq, Fallible.runs_bind_ok (runs_probe_answerBy h.probes hword)]
  cases content with
  | none =>
    rw [onceProbed, runs_inTurn_answerBy (by
      intro before command hcommand
      rcases List.mem_cons.1 hcommand with rfl | hcommand
      · exact h.formats before _
      · rw [List.mem_singleton.1 hcommand]
        exact h.mounts before _ options)]
    exact ⟨rfl, by simp [treatment]⟩
  | some existing =>
    by_cases hsame : existing = requestedType fsType
    · rw [onceProbed, if_pos hsame, runs_inTurn_answerBy (by
        intro before command hcommand
        rw [List.mem_singleton.1 hcommand]
        exact h.mounts before _ options), hsame, treatment_same]
      exact ⟨rfl, by simp⟩
    · rw [onceProbed, if_neg hsame, treatment_other hsame]
      exact ⟨rfl, rfl⟩

end Machine

/-! ## Both -/

/-- A host in memory and a Linux machine treat a device alike: what each of them does comes to the same, and
    is done with the same types. -/
def TreatAlike (n : Node) (m : Machine) (device target : String) (options : List String)
    (onNode : Except Host.Fault Unit × Node) (onLinux : Except Host.Fault Unit × Machine) : Prop :=
  ∃ t : Treatment,
    (t.result = .ok () ∨ ∃ existing requested,
      t.result = .error (.filesystemMismatch device existing requested)) ∧
    n.Treats device target t onNode ∧ m.Treats device target options t onLinux

/-- Where no type is asked for, they do not `TreatAlike`: Linux does what nobody has told the host in memory
    to do. -/
theorem not_treatAlike_empty {n : Node} {m : Machine} {onNode : Except Host.Fault Unit × Node}
    {onLinux : Except Host.Fault Unit × Machine}
    (hword : ∀ existing ∈ content, Blank.IsWord existing.toList)
    (hnode : n.Treats device target (treatment device "" content) onNode)
    (hlinux : m.Treats device target options (treatment device defaultFsType content) onLinux) :
    ¬TreatAlike n m device target options onNode onLinux := by
  rintro ⟨t, -, hnode', hlinux'⟩
  have hresult := hnode.result.symm.trans (hnode'.result.trans (hlinux'.result.symm.trans hlinux.result))
  cases content with
  | none =>
    -- Both end well, so the types of the mounts have to tell the difference.
    have hmounted : t.mounted = some "" := by
      have hmounts := List.append_cancel_left (hnode.mounts.symm.trans hnode'.mounts)
      cases hm : t.mounted <;> simp_all [treatment]
    have hcommands := List.append_cancel_left (hlinux.commands.symm.trans hlinux'.commands)
    have hafter := (List.cons.inj hcommands).2
    rw [hmounted] at hafter
    have hmount : mountCommand device target defaultFsType options = mountCommand device target "" options :=
      List.singleton_inj.1 (List.append_inj_right' hafter rfl)
    have hargs : mountArgs device target defaultFsType options = mountArgs device target "" options :=
      congrArg Command.args hmount
    have htype : defaultFsType = "" := (List.cons.inj (List.cons.inj hargs).2).1
    exact absurd htype (by decide)
  | some existing =>
    have hsome : existing ≠ "" := by
      rintro rfl
      exact (hword "" rfl).1 rfl
    rw [treatment_other hsome] at hresult
    by_cases hdefault : existing = defaultFsType
    · rw [hdefault, treatment_same] at hresult
      cases hresult
    · rw [treatment_other hdefault] at hresult
      simp [defaultFsType] at hresult

/-- **A device is treated alike where a type is asked for** (`TreatAlike`), and where none is, only if the
    host in memory is asked for the default by its name. -/
theorem formatAndMount_treatAlike {n : Node} {m : Machine}
    {outcome : List Command → Command → CommandOutput} (hnode : n.Furnished device target)
    (hword : ∀ existing ∈ n.fileSystems.get? device, Blank.IsWord existing.toList)
    (hworks : Machine.Works outcome m.commands device target (n.fileSystems.get? device))
    (fsType : String) (options : List String) :
    TreatAlike n m device target options
        (n.operate (.formatAndMount device target (requestedType fsType) options))
        (Fallible.runs (Machine.answerBy outcome) (formatAndMount device target fsType options) m) ∧
      (TreatAlike n m device target options
          (n.operate (.formatAndMount device target fsType options))
          (Fallible.runs (Machine.answerBy outcome) (formatAndMount device target fsType options) m) ↔
        fsType ≠ "") := by
  have hlinux := Machine.treats_formatAndMount hworks hword fsType options
  have hdefaulted : TreatAlike n m device target options
      (n.operate (.formatAndMount device target (requestedType fsType) options))
      (Fallible.runs (Machine.answerBy outcome) (formatAndMount device target fsType options) m) :=
    ⟨_, result_treatment .., Node.treats_operate hnode _ options, hlinux⟩
  refine ⟨hdefaulted, ?_, fun hsome => ?_⟩
  · rintro halike rfl
    exact not_treatAlike_empty hword (Node.treats_operate hnode "" options) hlinux halike
  · rwa [requestedType, if_neg hsome] at hdefaulted

end

/-- A host with one device, which holds a file system of the default type. -/
def labelledNode : Node where
  directories := .ofList [("/mnt/a", ())]
  devices := .ofList [("/dev/sdb", ())]
  fileSystems := .ofList [("/dev/sdb", defaultFsType)]

/-- Commands that do their work on the device of `labelledNode`. -/
def labelledOutcome (_ : List Command) (command : Command) : CommandOutput :=
  if command = probeCommand "/dev/sdb" then ⟨some 0, defaultFsType ++ "\n", ""⟩ else ⟨some 0, "", ""⟩

theorem code_labelledOutcome (before : List Command) (command : Command) :
    (labelledOutcome before command).code = some 0 := by
  unfold labelledOutcome
  split <;> rfl

theorem works_labelledOutcome :
    Machine.Works labelledOutcome [] "/dev/sdb" "/mnt/a" (some defaultFsType) where
  probes := ⟨rfl, "\n", by decide, by decide⟩
  formats := fun before _ => code_labelledOutcome before _
  mounts := fun before _ _ => code_labelledOutcome before _

theorem formatAndMount_treatAlike_labelledNode :
    TreatAlike labelledNode {} "/dev/sdb" "/mnt/a" ["ro"]
        (labelledNode.operate (.formatAndMount "/dev/sdb" "/mnt/a" (requestedType "") ["ro"]))
        (Fallible.runs (Machine.answerBy labelledOutcome)
          (formatAndMount "/dev/sdb" "/mnt/a" "" ["ro"]) {}) ∧
      (TreatAlike labelledNode {} "/dev/sdb" "/mnt/a" ["ro"]
          (labelledNode.operate (.formatAndMount "/dev/sdb" "/mnt/a" "" ["ro"]))
          (Fallible.runs (Machine.answerBy labelledOutcome)
            (formatAndMount "/dev/sdb" "/mnt/a" "" ["ro"]) {}) ↔ "" ≠ "") :=
  formatAndMount_treatAlike (by decide) (by decide) works_labelledOutcome "" ["ro"]

/-- Where no type is asked for, `labelledNode` refuses a device that Linux mounts. -/
theorem formatAndMount_labelledNode_unlike :
    (labelledNode.operate (.formatAndMount "/dev/sdb" "/mnt/a" "" [])).1 =
        .error (.filesystemMismatch "/dev/sdb" "ext4" "") ∧
      (Fallible.runs (Machine.answerBy labelledOutcome)
          (formatAndMount "/dev/sdb" "/mnt/a" "" []) {}).1 = .ok () ∧
      ¬TreatAlike labelledNode {} "/dev/sdb" "/mnt/a" []
        (labelledNode.operate (.formatAndMount "/dev/sdb" "/mnt/a" "" []))
        (Fallible.runs (Machine.answerBy labelledOutcome)
          (formatAndMount "/dev/sdb" "/mnt/a" "" []) {}) := by
  have hword : ∀ existing ∈ some defaultFsType, Blank.IsWord existing.toList := by decide
  have hfurnished : labelledNode.Furnished "/dev/sdb" "/mnt/a" := by decide
  have hnode := Node.treats_operate hfurnished "" []
  have hlinux := Machine.treats_formatAndMount (m := {}) works_labelledOutcome hword "" []
  exact ⟨hnode.result, hlinux.result, not_treatAlike_empty hword hnode hlinux⟩

end VolumeDriver.InMemory
