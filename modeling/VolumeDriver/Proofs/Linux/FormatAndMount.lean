import VolumeDriver.Proofs.Linux.InTurn
import VolumeDriver.Proofs.Text.Blank
set_option autoImplicit false

/-! # Formatting a device and mounting it

A device is formatted by `formatAndMount` only if the probe has found nothing on it, and it is mounted with
the type that the probe has found or that it was just formatted with. Whatever the commands come to, the
first that fails is the last that is run, so a device that could not be probed is left alone. -/

namespace VolumeDriver.InMemory

open Linux

/-! ## The commands -/

/-- The type of the file system that is to be mounted: the default where `fsType` is empty. -/
def requestedType (fsType : String) : String :=
  if fsType = "" then defaultFsType else fsType

/-- The command that tells what is on a device. -/
def probeCommand (device : String) : Command :=
  ⟨"blkid", ["-p", "-s", "TYPE", "-o", "value", device]⟩

/-- The command that formats a device. -/
def formatCommand (device fsType : String) : Command :=
  ⟨"mkfs." ++ fsType, if asksBack fsType then ["-F", device] else [device]⟩

/-- The command that mounts a device. -/
def mountCommand (device target fsType : String) (options : List String) : Command :=
  ⟨"mount", mountArgs device target fsType options⟩

theorem formatCommand_ne (device fsType program : String) (args : List String)
    (h : program.toList.take 2 ≠ ['m', 'k']) : formatCommand device fsType ≠ ⟨program, args⟩ := by
  intro heq
  have hprogram : "mkfs." ++ fsType = program := congrArg Command.program heq
  apply h
  rw [← hprogram]
  simp

/-! ## What a probe has found -/

/-- A probe has found nothing: it says so by its exit code, or succeeds without naming a type. -/
def CommandOutput.FindsNothing (output : CommandOutput) : Prop :=
  output.code = some nothingFound ∨ output.code = some 0 ∧ Blank.isBlankText output.output = true

/-- A probe has found a file system of the type `fsType`. -/
def CommandOutput.Finds (output : CommandOutput) (fsType : String) : Prop :=
  output.code = some 0 ∧ Blank.isBlankText output.output = false ∧
    Blank.trimmed output.output = fsType

theorem CommandOutput.Finds.not_nothing {output : CommandOutput} {fsType : String}
    (h : Finds output fsType) : ¬FindsNothing output := by
  obtain ⟨hcode, hblank, -⟩ := h
  intro hnothing
  rcases hnothing with hnothing | ⟨-, hnothing⟩
  · rw [hcode] at hnothing
    cases hnothing
  · rw [hblank] at hnothing
    cases hnothing

/-- Why a probe fails, if it does. That it exits with the code for nothing found is no failure. -/
def probeFault? (device : String) : Except Host.Fault CommandOutput → Option Host.Fault
  | .error fault => some fault
  | .ok output =>
    if output.code = some nothingFound then none else failure? (probeCommand device) (.ok output)

/-- What a probe comes to, by the answer to its command. -/
inductive Probes (device : String) :
    Except Host.Fault CommandOutput → Except Host.Fault (Option String) → Prop
  | fails {answer fault} (hfault : probeFault? device answer = some fault) :
      Probes device answer (.error fault)
  | nothing {output} (hfinds : CommandOutput.FindsNothing output) :
      Probes device (.ok output) (.ok none)
  | something {output fsType} (hfinds : CommandOutput.Finds output fsType) :
      Probes device (.ok output) (.ok (some fsType))

theorem runs_probe (m : Machine) (device : String) :
    ∃ result, Fallible.runs Machine.answer (probe device) m =
        (result, m.having [probeCommand device]) ∧
      Probes device (m.answerTo 0 (probeCommand device)) result := by
  have hrun := runs_runCommand m [] (probeCommand device)
  rw [m.having_nil, List.nil_append, List.length_nil] at hrun
  cases hanswer : m.answerTo 0 (probeCommand device) with
  | error fault =>
    rw [hanswer] at hrun
    exact ⟨_, Fallible.runs_bind_error hrun, .fails rfl⟩
  | ok output =>
    rw [hanswer] at hrun
    refine ⟨_, (Fallible.runs_bind_ok hrun).trans (Prod.ext rfl ?_), ?_⟩
    · split
      · rfl
      · rw [Fallible.runs_bind, Fallible.runs_ofExcept]
        cases output.requireSuccess "blkid" <;> rfl
    by_cases hnothing : output.code = some nothingFound
    · rw [if_pos hnothing]
      exact .nothing (.inl hnothing)
    rw [if_neg hnothing, Fallible.runs_bind, Fallible.runs_ofExcept]
    by_cases hsuccess : output.code = some 0
    · have hrequire : output.requireSuccess "blkid" = .ok output := by
        simp [CommandOutput.requireSuccess, CommandOutput.isSuccess, hsuccess]
      rw [hrequire]
      show Probes device (.ok output)
        (.ok (if Blank.trimmed output.output = "" then none else some (Blank.trimmed output.output)))
      by_cases hblank : Blank.isBlankText output.output = true
      · rw [if_pos ((Blank.trimmed_eq_empty_iff _).2 hblank)]
        exact .nothing (.inr ⟨hsuccess, hblank⟩)
      · rw [if_neg (fun hempty => hblank ((Blank.trimmed_eq_empty_iff _).1 hempty))]
        exact .something ⟨hsuccess, Bool.eq_false_iff.2 hblank, rfl⟩
    · have hrequire : output.requireSuccess "blkid" =
          .error (.command "blkid" output.code (Blank.trimmed output.errors)) := by
        simp [CommandOutput.requireSuccess, CommandOutput.isSuccess, hsuccess]
      rw [hrequire]
      exact .fails (by simp [probeFault?, failure?, hnothing, hsuccess, probeCommand])

/-! ## All commands together -/

/-- The part of `formatAndMount` in which it is known what is on a device. -/
def onceProbed (device target requested : String) (options : List String) :
    Option String → Linux.Run Unit
  | none =>
    inTurn [formatCommand device requested, mountCommand device target requested options]
  | some existing =>
    if existing = requested then inTurn [mountCommand device target requested options]
    else throw (.filesystemMismatch device existing requested)

theorem formatAndMount_eq (device target fsType : String) (options : List String) :
    formatAndMount device target fsType options =
      probe device >>= onceProbed device target (requestedType fsType) options := by
  unfold formatAndMount
  refine congrArg (probe device >>= ·) (funext fun found => ?_)
  unfold onceProbed
  cases found with
  | none =>
    show format device (requestedType fsType) >>= (fun _ =>
      mount device target (requestedType fsType) options) = _
    unfold format
    rw [bind_assoc]
    simp only [pure_bind]
    rfl
  | some existing =>
    by_cases hsame : existing = requestedType fsType
    · simp only [hsame, if_true]
      exact if_neg (not_not_intro rfl)
    · simp only [hsame, if_false]
      exact if_pos hsame

namespace Machine

/-- The first output is that of a probe that has found nothing. -/
def FindsNothing (m : Machine) : Prop :=
  ∃ output, m.outputs[0]? = some output ∧ CommandOutput.FindsNothing output

/-- The first output is that of a probe that has found a file system of the type `fsType`. -/
def Finds (m : Machine) (fsType : String) : Prop :=
  ∃ output, m.outputs[0]? = some output ∧ CommandOutput.Finds output fsType

/-- Why a command fails that is run after `i` others, if it does. -/
def fault? (m : Machine) (device : String) (i : Nat) (command : Command) : Option Host.Fault :=
  if command = probeCommand device then probeFault? device (m.answerTo i command)
  else failure? command (m.answerTo i command)

theorem Finds.not_nothing {m : Machine} {fsType : String} (h : m.Finds fsType) :
    ¬m.FindsNothing := by
  obtain ⟨output, houtput, hfinds⟩ := h
  rintro ⟨output', houtput', hnothing⟩
  rw [houtput] at houtput'
  cases houtput'
  exact hfinds.not_nothing hnothing

theorem Finds.unique {m : Machine} {fsType other : String} (h : m.Finds fsType)
    (hother : m.Finds other) : fsType = other := by
  obtain ⟨output, houtput, -, -, hfinds⟩ := h
  obtain ⟨output', houtput', -, -, hfinds'⟩ := hother
  rw [houtput] at houtput'
  cases houtput'
  exact hfinds.symm.trans hfinds'

/-- A probe that `Finds` something or `FindsNothing` has not failed. -/
theorem fault?_probe {m : Machine} {device : String}
    (h : m.FindsNothing ∨ ∃ fsType, m.Finds fsType) :
    m.fault? device 0 (probeCommand device) = none := by
  unfold fault? probeFault?
  rw [if_pos rfl]
  rcases h with ⟨output, houtput, hnothing⟩ | ⟨fsType, output, houtput, hsuccess, -⟩
  · rw [answerTo_eq_ok_iff.2 houtput]
    rcases hnothing with hnothing | ⟨hsuccess, -⟩
    · exact if_pos hnothing
    · simp only [failure?, if_pos hsuccess, ite_self]
  · rw [answerTo_eq_ok_iff.2 houtput]
    simp only [failure?, if_pos hsuccess, ite_self]

/-- Any command but the `probeCommand` succeeds by exiting with zero. -/
theorem fault?_eq_none_iff {m : Machine} {device : String} {i : Nat} {command : Command}
    (hother : command ≠ probeCommand device) :
    m.fault? device i command = none ↔
      ∃ output, m.outputs[i]? = some output ∧ output.code = some 0 := by
  unfold fault?
  rw [if_neg hother, failure?_eq_none_iff]
  simp only [answerTo_eq_ok_iff]

end Machine

/-- What is run on a machine to format a device and mount it (`ran`), and what that comes to. -/
structure FormatsSafely (m : Machine) (device target requested : String) (options : List String)
    (ran : List Command) (result : Except Host.Fault Unit) : Prop where
  /-- on a device with nothing on it -/
  blank : m.FindsNothing → ran <+: [probeCommand device, formatCommand device requested,
    mountCommand device target requested options]
  /-- on any other device -/
  filled : ¬m.FindsNothing →
    ran <+: [probeCommand device, mountCommand device target requested options]
  /-- the one case in which anything is lost -/
  formats_iff : formatCommand device requested ∈ ran ↔ m.FindsNothing
  mismatch : ∀ existing, m.Finds existing → existing ≠ requested →
    result = .error (.filesystemMismatch device existing requested) ∧ ran = [probeCommand device]
  /-- nothing is run after a command that fails -/
  stops : ∀ i command fault, ran[i]? = some command → m.fault? device i command = some fault →
    result = .error fault ∧ ran.length = i + 1
  failed : ∀ fault, result = .error fault →
    (∃ existing, m.Finds existing ∧ existing ≠ requested) ∨
      ∃ i command, ran[i]? = some command ∧ m.fault? device i command = some fault
  succeeds_iff : result = .ok () ↔
    ∃ (i : Nat) (output : CommandOutput),
      ran[i]? = some (mountCommand device target requested options) ∧
        m.outputs[i]? = some output ∧ output.code = some 0
  /-- what is mounted has been found or has just been made -/
  mounts : mountCommand device target requested options ∈ ran →
    m.Finds requested ∨ ran[1]? = some (formatCommand device requested) ∧
      ∃ output : CommandOutput, m.outputs[1]? = some output ∧ output.code = some 0

section

variable {m : Machine} {device target requested : String} {options : List String}
  {ran : List Command} {result : Except Host.Fault Unit}

theorem format_ne_probe : formatCommand device requested ≠ probeCommand device :=
  formatCommand_ne _ _ _ _ (by decide)

theorem format_ne_mount :
    formatCommand device requested ≠ mountCommand device target requested options :=
  formatCommand_ne _ _ _ _ (by decide)

theorem mount_ne_probe : mountCommand device target requested options ≠ probeCommand device := by
  intro heq
  have hprogram : "mount" = "blkid" := congrArg Command.program heq
  exact absurd hprogram (by decide)

/-- The `probeCommand` that has not failed, with what is run after it. -/
theorem runsInTurn_probe {commands : List Command}
    (hprobe : m.fault? device 0 (probeCommand device) = none)
    (hnew : probeCommand device ∉ commands)
    (h : RunsInTurn (fun i command => failure? command (m.answerTo (1 + i) command)) commands ran
      result) :
    RunsInTurn (m.fault? device) (probeCommand device :: commands) (probeCommand device :: ran)
      result := by
  refine RunsInTurn.cons hprobe (h.congr fun i command hcommand => ?_)
  have hother : command ≠ probeCommand device := by
    rintro rfl
    exact hnew hcommand
  unfold Machine.fault?
  rw [if_neg hother, Nat.add_comm]

/-- Where the `mountCommand` is the last of all, all has succeeded if it has. -/
theorem mount_succeeds_iff (commands : List Command)
    (h : RunsInTurn (m.fault? device)
      (commands ++ [mountCommand device target requested options]) ran result)
    (hnew : mountCommand device target requested options ∉ commands) :
    result = .ok () ↔
      ∃ (i : Nat) (output : CommandOutput),
        ran[i]? = some (mountCommand device target requested options) ∧
          m.outputs[i]? = some output ∧ output.code = some 0 := by
  rw [h.ok_iff hnew]
  simp only [Machine.fault?_eq_none_iff mount_ne_probe, exists_and_left]

/-- What `FormatsSafely` asks where nothing is on the device. -/
theorem formatsSafely_blank (hnothing : m.FindsNothing)
    (h : RunsInTurn (m.fault? device) [probeCommand device, formatCommand device requested,
      mountCommand device target requested options] ran result) :
    FormatsSafely m device target requested options ran result where
  blank := fun _ => h.isPrefix
  filled := fun hsome => absurd hnothing hsome
  formats_iff := by
    refine ⟨fun _ => hnothing, fun _ => ?_⟩
    obtain ⟨after, rfl⟩ := h.next (Machine.fault?_probe (.inl hnothing))
    simp
  mismatch := fun existing hfinds _ => absurd hnothing hfinds.not_nothing
  stops := h.stops
  failed := fun fault hresult => .inr (h.failed fault hresult)
  succeeds_iff :=
    mount_succeeds_iff [probeCommand device, formatCommand device requested] h
      (by simp [mount_ne_probe, format_ne_mount.symm])
  mounts := by
    intro hmount
    obtain ⟨i, hi⟩ := List.mem_iff_getElem?.1 hmount
    obtain ⟨-, hran⟩ := RunsInTurn.last_run [probeCommand device, formatCommand device requested] h
      (by simp [mount_ne_probe, format_ne_mount.symm]) hi
    have hformat : ran[1]? = some (formatCommand device requested) := by simp [hran]
    have hsuccess := h.succeeded hformat (by simp [hran])
    exact .inr ⟨hformat, (Machine.fault?_eq_none_iff format_ne_probe).1 hsuccess⟩

/-- What `FormatsSafely` asks where something is on the device, or what is on it cannot be told. -/
theorem formatsSafely_filled (hsome : ¬m.FindsNothing)
    (hsame : ∀ existing, m.Finds existing → existing = requested)
    (hfinds : m.fault? device 0 (probeCommand device) = none → m.Finds requested)
    (h : RunsInTurn (m.fault? device) [probeCommand device,
      mountCommand device target requested options] ran result) :
    FormatsSafely m device target requested options ran result where
  blank := fun hnothing => absurd hnothing hsome
  filled := fun _ => h.isPrefix
  formats_iff := by
    refine ⟨fun hformat => ?_, fun hnothing => absurd hnothing hsome⟩
    have hmem := h.isPrefix.subset hformat
    simp [format_ne_probe, format_ne_mount] at hmem
  mismatch := fun existing hexisting hne => absurd (hsame existing hexisting) hne
  stops := h.stops
  failed := fun fault hresult => .inr (h.failed fault hresult)
  succeeds_iff :=
    mount_succeeds_iff [probeCommand device] h (by simp [mount_ne_probe])
  mounts := by
    intro hmount
    obtain ⟨i, hi⟩ := List.mem_iff_getElem?.1 hmount
    obtain ⟨-, hran⟩ := RunsInTurn.last_run [probeCommand device] h (by simp [mount_ne_probe]) hi
    have hprobe : ran[0]? = some (probeCommand device) := by simp [hran]
    exact .inl (hfinds (h.succeeded hprobe (by simp [hran])))

/-- What `FormatsSafely` asks where something else is on the device than what is to be mounted. -/
theorem formatsSafely_mismatch {existing : String} (hfinds : m.Finds existing)
    (hne : existing ≠ requested) :
    FormatsSafely m device target requested options [probeCommand device]
      (.error (.filesystemMismatch device existing requested)) where
  blank := fun hnothing => absurd hnothing hfinds.not_nothing
  filled := fun _ => by simp
  formats_iff := by
    refine ⟨fun hformat => ?_, fun hnothing => absurd hnothing hfinds.not_nothing⟩
    simp [format_ne_probe] at hformat
  mismatch := by
    intro other hother _
    rw [hother.unique hfinds]
    exact ⟨rfl, rfl⟩
  stops := by
    intro i command fault hi hfault
    rcases i with _ | i
    · cases hi
      rw [Machine.fault?_probe (.inr ⟨existing, hfinds⟩)] at hfault
      cases hfault
    · simp at hi
  failed := fun _ _ => .inl ⟨existing, hfinds, hne⟩
  succeeds_iff := by
    refine ⟨nofun, ?_⟩
    rintro ⟨i, output, hi, -⟩
    have hmem := List.mem_of_getElem? hi
    simp [mount_ne_probe] at hmem
  mounts := by
    intro hmount
    simp [mount_ne_probe] at hmount

end

/-- **A device is never formatted over what is on it, and what fails first is what is reported:**
    `formatAndMount` runs what `FormatsSafely` allows. -/
theorem formatAndMount_formatsSafely (m : Machine) (device target fsType : String)
    (options : List String) :
    ∃ ran, (Fallible.runs Machine.answer (formatAndMount device target fsType options) m).2 =
        m.having ran ∧
      FormatsSafely m device target (requestedType fsType) options ran
        (Fallible.runs Machine.answer (formatAndMount device target fsType options) m).1 := by
  rw [formatAndMount_eq]
  obtain ⟨result, hrun, hprobes⟩ := runs_probe m device
  generalize hanswer : m.answerTo 0 (probeCommand device) = answer at hprobes
  cases hprobes with
  | @fails answer fault hfault =>
    have hprobe : m.fault? device 0 (probeCommand device) = some fault := by
      rw [Machine.fault?, if_pos rfl, hanswer, hfault]
    rw [Fallible.runs_bind_error hrun]
    -- A probe that fails has found neither nothing nor a type.
    have hneither : ∀ h : m.FindsNothing ∨ ∃ existing, m.Finds existing, False := by
      intro h
      rw [Machine.fault?_probe h] at hprobe
      cases hprobe
    refine ⟨_, rfl, formatsSafely_filled (fun h => hneither (.inl h))
      (fun existing h => (hneither (.inr ⟨existing, h⟩)).elim) ?_ (runsInTurn_of_fault hprobe)⟩
    rw [hprobe]
    nofun
  | @nothing output hfinds =>
    have hnothing : m.FindsNothing := ⟨output, Machine.answerTo_eq_ok_iff.1 hanswer, hfinds⟩
    rw [Fallible.runs_bind_ok hrun]
    obtain ⟨ran, hafter, hran⟩ := runs_inTurn m
      [formatCommand device (requestedType fsType),
        mountCommand device target (requestedType fsType) options] [probeCommand device]
    refine ⟨probeCommand device :: ran, hafter, formatsSafely_blank hnothing
      (runsInTurn_probe (Machine.fault?_probe (.inl hnothing)) ?_ hran)⟩
    simp [format_ne_probe.symm, mount_ne_probe.symm]
  | @something output existing hfound =>
    have hfinds : m.Finds existing := ⟨output, Machine.answerTo_eq_ok_iff.1 hanswer, hfound⟩
    rw [Fallible.runs_bind_ok hrun]
    by_cases hsame : existing = requestedType fsType
    · subst hsame
      obtain ⟨ran, hafter, hran⟩ := runs_inTurn m
        [mountCommand device target (requestedType fsType) options] [probeCommand device]
      rw [onceProbed, if_pos rfl]
      refine ⟨probeCommand device :: ran, hafter, formatsSafely_filled hfinds.not_nothing
        (fun other hother => hother.unique hfinds) (fun _ => hfinds)
        (runsInTurn_probe (Machine.fault?_probe (.inr ⟨_, hfinds⟩)) ?_ hran)⟩
      simp [mount_ne_probe.symm]
    · rw [onceProbed, if_neg hsame]
      exact ⟨_, rfl, formatsSafely_mismatch hfinds hsame⟩

end VolumeDriver.InMemory
