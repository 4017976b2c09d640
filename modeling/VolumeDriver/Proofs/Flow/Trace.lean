import VolumeDriver.Flow
set_option autoImplicit false

/-! # What a flow has been answered

A trace lists the actions that a flow has asked for, each with its answer. `m.Path t m'` says that `m`,
answered as in `t`, goes on as `m'`; `m.Ends t a` says that it ends in `a`. Neither mentions a state, so
both hold of a flow that others come in between: what one flow can know is its own trace.

The lemmas take the trace of a flow apart the way the flow was put together. -/

namespace VolumeDriver

/-- An action and its answer. -/
structure Event (S : Signature) where
  action : S.Action
  answer : S.Answer action

/-- An event of the first of two signatures as one of both. -/
def Event.inLeft {S T : Signature} (e : Event S) : Event (S.sum T) :=
  ⟨.inl e.action, e.answer⟩

namespace Flow

variable {S T : Signature} {α β : Type}

/-- The flow, answered as in the trace, goes on as another one. -/
inductive Path : Flow S α → List (Event S) → Flow S α → Prop
  | stop (m : Flow S α) : Path m [] m
  | step {action : S.Action} {next : S.Answer action → Flow S α} {answer : S.Answer action}
      {trace : List (Event S)} {m : Flow S α} (path : Path (next answer) trace m) :
      Path (.ask action next) (⟨action, answer⟩ :: trace) m

/-- The flow, answered as in the trace, ends in a result: its `Path` comes to `done`. -/
def Ends (m : Flow S α) (trace : List (Event S)) (result : α) : Prop :=
  m.Path trace (.done result)

/-- A `Path` goes on with the answer to the action that it has come to. -/
theorem Path.snoc {m : Flow S α} {trace : List (Event S)} {action : S.Action}
    {next : S.Answer action → Flow S α} (h : m.Path trace (.ask action next))
    (answer : S.Answer action) : m.Path (trace ++ [⟨action, answer⟩]) (next answer) := by
  generalize hm : Flow.ask action next = m' at h
  induction h with
  | stop m =>
    subst hm
    exact .step (.stop _)
  | step _ ih => exact .step (ih hm)

theorem ends_done {a b : α} {trace : List (Event S)} (h : (done a : Flow S α).Ends trace b) :
    trace = [] ∧ a = b := by
  cases h with
  | stop => exact ⟨rfl, rfl⟩

theorem ends_perform {action : S.Action} {trace : List (Event S)} {answer : S.Answer action}
    (h : (perform action).Ends trace answer) : trace = [⟨action, answer⟩] := by
  cases h with
  | step path =>
    obtain ⟨rfl, rfl⟩ := ends_done path
    rfl

/-- The trace with which `bind` ends is that of its first part and then that of what follows. -/
theorem ends_bind {m : Flow S α} {f : α → Flow S β} {trace : List (Event S)} {b : β}
    (h : (m.bind f).Ends trace b) :
    ∃ first rest a, trace = first ++ rest ∧ m.Ends first a ∧ (f a).Ends rest b := by
  induction m generalizing trace with
  | done a => exact ⟨[], trace, a, rfl, .stop _, h⟩
  | ask action next ih =>
    cases h with
    | step path =>
      obtain ⟨first, rest, a, rfl, hm, hf⟩ := ih _ path
      exact ⟨_, rest, a, rfl, .step hm, hf⟩

theorem ends_inLeft {m : Flow S α} {trace : List (Event (S.sum T))} {a : α}
    (h : (m.inLeft (T := T)).Ends trace a) :
    ∃ events : List (Event S), trace = events.map Event.inLeft ∧ m.Ends events a := by
  induction m generalizing trace with
  | done b =>
    obtain ⟨rfl, rfl⟩ := ends_done h
    exact ⟨[], rfl, .stop _⟩
  | ask action next ih =>
    cases h with
    | step path =>
      obtain ⟨events, rfl, hm⟩ := ih _ path
      exact ⟨⟨action, _⟩ :: events, rfl, .step hm⟩

end Flow

/-! ## Flows that may fail -/

namespace Fallible

variable {ε ε' : Type} {S : Signature} {α β : Type}

/-- The flow, answered as in the trace, fails or comes to a value. -/
def Ends (m : Fallible ε S α) (trace : List (Event S)) (result : Except ε α) : Prop :=
  Flow.Ends m.run trace result

theorem ends_pure {a : α} {trace : List (Event S)} {result : Except ε α}
    (h : Ends (pure a : Fallible ε S α) trace result) : trace = [] ∧ result = .ok a := by
  obtain ⟨ht, hr⟩ := Flow.ends_done h
  exact ⟨ht, hr.symm⟩

theorem ends_throw {fault : ε} {trace : List (Event S)} {result : Except ε α}
    (h : Ends (throw fault : Fallible ε S α) trace result) :
    trace = [] ∧ result = .error fault := by
  obtain ⟨ht, hr⟩ := Flow.ends_done h
  exact ⟨ht, hr.symm⟩

/-- A composed flow ends as its first part fails, or as what follows it ends. -/
theorem ends_bind {m : Fallible ε S α} {f : α → Fallible ε S β} {trace : List (Event S)}
    {result : Except ε β} (h : Ends (m >>= f) trace result) :
    (∃ fault, result = .error fault ∧ Ends m trace (.error fault)) ∨
      ∃ first rest a, trace = first ++ rest ∧ Ends m first (.ok a) ∧ Ends (f a) rest result := by
  obtain ⟨first, rest, answer, ht, hm, hf⟩ := Flow.ends_bind h
  cases answer with
  | ok a => exact .inr ⟨first, rest, a, ht, hm, hf⟩
  | error fault =>
    obtain ⟨rfl, hr⟩ := Flow.ends_done hf
    rw [ht, List.append_nil]
    exact .inl ⟨fault, hr.symm, hm⟩

/-- A composed flow that `Ends` in a value has ended in one in both of its parts. -/
theorem ends_bind_ok {m : Fallible ε S α} {f : α → Fallible ε S β} {trace : List (Event S)} {b : β}
    (h : Ends (m >>= f) trace (.ok b)) :
    ∃ first rest a, trace = first ++ rest ∧ Ends m first (.ok a) ∧ Ends (f a) rest (.ok b) := by
  rcases ends_bind h with ⟨fault, hb, -⟩ | hboth
  · cases hb
  · exact hboth

theorem ends_ofFlow {m : Flow S (Except ε α)} {trace : List (Event S)} {result : Except ε α}
    (h : Ends (ofFlow m) trace result) : m.Ends trace result :=
  h

theorem ends_ofExcept {x : Except ε α} {trace : List (Event S)} {result : Except ε α}
    (h : Ends (ofExcept x : Fallible ε S α) trace result) : trace = [] ∧ result = x := by
  cases x with
  | ok a => exact ends_pure h
  | error fault => exact ends_throw h

/-- A flow and what `wrap` makes of it end with the same traces, for wrapping faults asks for nothing. -/
theorem ends_wrap {wrap : ε' → ε} {m : Fallible ε' S α} {trace : List (Event S)}
    {result : Except ε α} (h : Ends (Fallible.wrap wrap m) trace result) :
    ∃ unwrapped, Ends m trace unwrapped ∧ result = unwrapped.mapError wrap := by
  obtain ⟨first, rest, unwrapped, ht, hm, hf⟩ := Flow.ends_bind h
  refine ⟨unwrapped, ?_⟩
  cases unwrapped with
  | ok a =>
    obtain ⟨rfl, hr⟩ := Flow.ends_done hf
    rw [ht, List.append_nil]
    exact ⟨hm, hr.symm⟩
  | error fault =>
    obtain ⟨rfl, hr⟩ := Flow.ends_done hf
    rw [ht, List.append_nil]
    exact ⟨hm, hr.symm⟩

theorem ends_wrap_ok {wrap : ε' → ε} {m : Fallible ε' S α} {trace : List (Event S)} {a : α}
    (h : Ends (Fallible.wrap wrap m) trace (.ok a)) : Ends m trace (.ok a) := by
  obtain ⟨unwrapped, hm, hr⟩ := ends_wrap h
  cases unwrapped with
  | ok b =>
    cases hr
    exact hm
  | error fault => cases hr

/-- A flow whose outcome is its value (`outcome`) does not fail. -/
theorem not_ends_outcome_error {m : Fallible ε' S α} {trace : List (Event S)} {fault : ε} :
    ¬Ends (outcome m : Fallible ε S (Except ε' α)) trace (.error fault) := by
  intro h
  obtain ⟨_, _, _, _, _, hf⟩ := Flow.ends_bind h
  cases (Flow.ends_done hf).2

theorem ends_outcome {m : Fallible ε' S α} {trace : List (Event S)} {result : Except ε' α}
    (h : Ends (outcome m : Fallible ε S (Except ε' α)) trace (.ok result)) :
    Ends m trace result := by
  obtain ⟨first, rest, r, ht, hm, hf⟩ := Flow.ends_bind h
  obtain ⟨rfl, hr⟩ := Flow.ends_done hf
  cases hr
  rw [ht, List.append_nil]
  exact hm

end Fallible

end VolumeDriver
