import VolumeDriver.InMemory.Machine
import VolumeDriver.Proofs.Flow.Run
set_option autoImplicit false

/-! # Commands run one after another

On a machine whose outputs were laid down in advance, what comes of a command only depends on how many
were run before it (`Machine.answerTo`). `RunsInTurn` says of some commands how far they are run when
each of them has to succeed: up to the first that does not, and its fault is what the run comes to. -/

namespace VolumeDriver.InMemory

open Linux

namespace Machine

/-- How a `Machine` answers the flows on Linux. -/
def answer (action : Linux.signature.Action) (m : Machine) :
    Linux.signature.Answer action × Machine :=
  m.respond action

/-- What comes of a command that is run after `n` others. -/
def answerTo (m : Machine) (n : Nat) (command : Command) : Except Host.Fault CommandOutput :=
  match m.outputs[n]? with
  | some output => .ok output
  | none => .error (.spawn command.program m.exhausted)

theorem answerTo_eq_ok_iff {m : Machine} {n : Nat} {command : Command} {output : CommandOutput} :
    m.answerTo n command = .ok output ↔ m.outputs[n]? = some output := by
  unfold answerTo
  cases m.outputs[n]? <;> simp

/-- The machine when some commands have been run. -/
def having (m : Machine) (commands : List Command) : Machine :=
  { m with
    commands := m.commands ++ commands
    outputs := m.outputs.drop commands.length }

theorem having_nil (m : Machine) : m.having [] = m := by
  simp [having]

theorem respond_run (m : Machine) (before : List Command) (command : Command) :
    (m.having before).respond (.run command) =
      (m.answerTo before.length command, m.having (before ++ [command])) := by
  have hnext : (m.outputs.drop before.length).head? = m.outputs[before.length]? := List.head?_drop
  have hrest : (m.outputs.drop before.length).tail = m.outputs.drop (before.length + 1) := List.tail_drop
  simp only [respond, having, answerTo, List.length_append, List.length_singleton, ← hnext, ← hrest,
    List.append_assoc]
  cases m.outputs.drop before.length <;> rfl

end Machine

/-- Why a command has failed, if it has: it could not be started, or has not exited with zero. -/
def failure? (command : Command) : Except Host.Fault CommandOutput → Option Host.Fault
  | .error fault => some fault
  | .ok output =>
    if output.code = some 0 then none
    else some (.command command.program output.code (Blank.trimmed output.errors))

theorem failure?_eq_none_iff {command : Command} {answer : Except Host.Fault CommandOutput} :
    failure? command answer = none ↔ ∃ output, answer = .ok output ∧ output.code = some 0 := by
  unfold failure?
  split
  · simp
  · split <;> simp_all

theorem runs_runCommand (m : Machine) (before : List Command) (command : Command) :
    Fallible.runs Machine.answer (runCommand command.program command.args) (m.having before) =
      (m.answerTo before.length command, m.having (before ++ [command])) := by
  rw [← m.respond_run]
  rfl

/-- A command that has to `succeed` fails as its `failure?` says. -/
theorem runs_succeed (m : Machine) (before : List Command) (command : Command) :
    ((Fallible.runs Machine.answer (succeed command.program command.args)
        (m.having before)).2 = m.having (before ++ [command])) ∧
      Fallible.fault? (Fallible.runs Machine.answer (succeed command.program command.args)
        (m.having before)).1 = failure? command (m.answerTo before.length command) := by
  unfold succeed
  rw [Fallible.runs_bind, runs_runCommand]
  cases m.answerTo before.length command with
  | error fault => exact ⟨rfl, rfl⟩
  | ok output =>
    refine ⟨by simp only [Fallible.runs_ofExcept], ?_⟩
    simp only [Fallible.runs_ofExcept, CommandOutput.requireSuccess, CommandOutput.isSuccess, failure?,
      decide_eq_true_eq]
    split
    · rfl
    · rfl

/-! ## Commands that all have to succeed -/

/-- Runs commands one after another. -/
def inTurn : List Command → Linux.Run Unit
  | [] => pure ()
  | command :: commands => do
    let _ ← succeed command.program command.args
    inTurn commands

/-- What is run of some commands, and what it comes to, where `fault?` says of a command whether it fails
    when it is run after `i` others. -/
structure RunsInTurn (fault? : Nat → Command → Option Host.Fault) (commands ran : List Command)
    (result : Except Host.Fault Unit) : Prop where
  isPrefix : ran <+: commands
  stops : ∀ i command fault, ran[i]? = some command → fault? i command = some fault →
    result = .error fault ∧ ran.length = i + 1
  failed : ∀ fault, result = .error fault →
    ∃ i command, ran[i]? = some command ∧ fault? i command = some fault
  finished : result = .ok () → ran = commands

section RunsInTurn

variable {fault? : Nat → Command → Option Host.Fault} {command : Command}
  {commands ran : List Command} {result : Except Host.Fault Unit} {fault : Host.Fault}

theorem runsInTurn_nil : RunsInTurn fault? [] [] (.ok ()) where
  isPrefix := List.prefix_refl _
  stops := by simp
  failed := by simp
  finished := fun _ => rfl

theorem runsInTurn_of_fault (h : fault? 0 command = some fault) :
    RunsInTurn fault? (command :: commands) [command] (.error fault) where
  isPrefix := by simp
  stops := by
    intro i command' fault' hi hfault
    rcases i with _ | i
    · simp only [List.getElem?_cons_zero, Option.some.injEq] at hi
      subst hi
      rw [h] at hfault
      cases hfault
      exact ⟨rfl, rfl⟩
    · simp at hi
  failed := by
    intro fault' hfault
    cases hfault
    exact ⟨0, command, rfl, h⟩
  finished := nofun

/-- In `RunsInTurn`, what comes after a command that succeeds. -/
theorem RunsInTurn.cons (hsuccess : fault? 0 command = none)
    (h : RunsInTurn (fun i => fault? (i + 1)) commands ran result) :
    RunsInTurn fault? (command :: commands) (command :: ran) result where
  isPrefix := (List.prefix_cons_inj command).2 h.isPrefix
  stops := by
    intro i command' fault' hi hfault
    rcases i with _ | i
    · simp only [List.getElem?_cons_zero, Option.some.injEq] at hi
      subst hi
      rw [hsuccess] at hfault
      cases hfault
    · obtain ⟨hresult, hlength⟩ := h.stops i command' fault' hi hfault
      exact ⟨hresult, by rw [List.length_cons, hlength]⟩
  failed := by
    intro fault' hfault
    obtain ⟨i, command', hi, hcommand⟩ := h.failed fault' hfault
    exact ⟨i + 1, command', hi, hcommand⟩
  finished := by
    intro hresult
    rw [h.finished hresult]

/-- In `RunsInTurn`, what is run only depends on how the commands themselves fail. -/
theorem RunsInTurn.congr {other? : Nat → Command → Option Host.Fault}
    (h : RunsInTurn fault? commands ran result)
    (hsame : ∀ i, ∀ command ∈ commands, other? i command = fault? i command) :
    RunsInTurn other? commands ran result where
  isPrefix := h.isPrefix
  stops := by
    intro i command fault hi hfault
    rw [hsame i command (h.isPrefix.subset (List.mem_of_getElem? hi))] at hfault
    exact h.stops i command fault hi hfault
  failed := by
    intro fault hresult
    obtain ⟨i, command, hi, hfault⟩ := h.failed fault hresult
    refine ⟨i, command, hi, ?_⟩
    rw [hsame i command (h.isPrefix.subset (List.mem_of_getElem? hi))]
    exact hfault
  finished := h.finished

/-- In `RunsInTurn`, all commands are run where none fails. -/
theorem RunsInTurn.complete (h : RunsInTurn fault? commands ran result)
    (hsuccess : ∀ i command, ran[i]? = some command → fault? i command = none) : ran = commands := by
  cases result with
  | ok _ => exact h.finished rfl
  | error fault =>
    obtain ⟨i, command, hi, hfault⟩ := h.failed fault rfl
    rw [hsuccess i command hi] at hfault
    cases hfault

/-- In `RunsInTurn`, the command after one that succeeds is run. -/
theorem RunsInTurn.next {first : Command}
    (h : RunsInTurn fault? (first :: command :: commands) ran result)
    (hsuccess : fault? 0 first = none) : ∃ after, ran = first :: command :: after := by
  obtain ⟨after, hafter⟩ := h.isPrefix
  match ran with
  | [] => exact absurd (h.complete (by simp)) (by simp)
  | [one] =>
    have hone : one = first := by simpa using (List.cons.inj hafter).1
    subst hone
    refine absurd (h.complete fun i command hi => ?_) (by simp)
    rcases i with _ | i
    · cases hi
      exact hsuccess
    · simp at hi
  | one :: two :: ran =>
    simp only [List.cons_append, List.cons.injEq] at hafter
    obtain ⟨rfl, rfl, -⟩ := hafter
    exact ⟨ran, rfl⟩

/-- In `RunsInTurn`, a command after which another is run has not failed. -/
theorem RunsInTurn.succeeded (h : RunsInTurn fault? commands ran result) {i : Nat}
    (hi : ran[i]? = some command) (hlength : i + 1 < ran.length) : fault? i command = none := by
  cases hfault : fault? i command with
  | none => rfl
  | some fault =>
    have hlast := (h.stops i command fault hi hfault).2
    omega

variable (commands) in
/-- In `RunsInTurn`, a command that is the last of all and not one of the others is only run when these have
    been. -/
theorem RunsInTurn.last_run (h : RunsInTurn fault? (commands ++ [command]) ran result)
    (hnew : command ∉ commands) {i : Nat} (hi : ran[i]? = some command) :
    i = commands.length ∧ ran = commands ++ [command] := by
  obtain ⟨hlt, hget⟩ := List.getElem?_eq_some_iff.1 hi
  have hat := List.prefix_iff_getElem?.1 h.isPrefix i hlt
  have hpast : commands.length ≤ i := by
    by_cases hearly : i < commands.length
    · rw [List.getElem?_append_left hearly, hget] at hat
      exact absurd (List.mem_of_getElem? hat) hnew
    · exact Nat.le_of_not_lt hearly
  have hlength : (commands ++ [command]).length = commands.length + 1 := by simp
  have hle : ran.length ≤ commands.length + 1 := hlength ▸ h.isPrefix.length_le
  exact ⟨by omega, h.isPrefix.eq_of_length (by omega)⟩

/-- Whether the last command is run and succeeds is what the result of `RunsInTurn` tells. -/
theorem RunsInTurn.ok_iff (h : RunsInTurn fault? (commands ++ [command]) ran result)
    (hnew : command ∉ commands) :
    result = .ok () ↔ ∃ i, ran[i]? = some command ∧ fault? i command = none := by
  constructor
  · intro hresult
    have hran := h.finished hresult
    have hi : ran[commands.length]? = some command := by simp [hran]
    refine ⟨commands.length, hi, ?_⟩
    cases hfault : fault? commands.length command with
    | none => rfl
    | some fault =>
      rw [(h.stops _ _ fault hi hfault).1] at hresult
      cases hresult
  · rintro ⟨i, hi, hsuccess⟩
    cases result with
    | ok _ => rfl
    | error fault =>
      -- What fails would be the last to be run, so it would be the command itself.
      obtain ⟨j, failing, hj, hfault⟩ := h.failed fault rfl
      have hlast := (h.stops j failing fault hj hfault).2
      obtain ⟨hlength, hran⟩ := h.last_run commands hnew hi
      have hij : j = i := by simp [hran] at hlast; omega
      subst hij
      rw [hi] at hj
      cases hj
      rw [hsuccess] at hfault
      cases hfault

end RunsInTurn

/-- **Commands that all have to succeed are run up to the first that does not** (`RunsInTurn`). -/
theorem runs_inTurn (m : Machine) (commands before : List Command) :
    ∃ ran, (Fallible.runs Machine.answer (inTurn commands) (m.having before)).2 =
        m.having (before ++ ran) ∧
      RunsInTurn (fun i command => failure? command (m.answerTo (before.length + i) command)) commands
        ran (Fallible.runs Machine.answer (inTurn commands) (m.having before)).1 := by
  induction commands generalizing before with
  | nil => exact ⟨[], by rw [List.append_nil]; rfl, runsInTurn_nil⟩
  | cons command commands ih =>
    obtain ⟨hstate, hfault⟩ := runs_succeed m before command
    unfold inTurn
    rcases hrun : Fallible.runs Machine.answer (succeed command.program command.args)
      (m.having before) with ⟨fault | output, m'⟩
    · rw [hrun] at hstate hfault
      rw [Fallible.runs_bind_error hrun]
      exact ⟨[command], hstate, runsInTurn_of_fault hfault.symm⟩
    · rw [hrun] at hstate hfault
      simp only at hstate
      subst hstate
      rw [Fallible.runs_bind_ok hrun]
      obtain ⟨ran, hafter, hran⟩ := ih (before ++ [command])
      refine ⟨command :: ran, ?_, RunsInTurn.cons hfault.symm ?_⟩
      · rw [hafter, List.append_assoc]
        rfl
      · simpa only [List.length_append, List.length_singleton, Nat.add_assoc, Nat.add_comm 1] using hran

end VolumeDriver.InMemory
