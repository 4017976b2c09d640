import VolumeDriver.Proofs.Flow.Run
set_option autoImplicit false

/-! # The states that a flow comes through

`Flow.visits` lists the states that a run finds or leaves, from the first to the last, and
`Flow.Throughout` says that all of them have a property. Unlike what a run comes to, this also holds
a flow to account for what it does before it fails.

`Flow.Only` says which actions a flow may ask for, whatever it is answered. A property that none of
these actions breaks is kept throughout. -/

namespace VolumeDriver

namespace Flow

variable {S T : Signature} {α β σ : Type}

/-- The states that `Flow.run` comes through, the first and the last among them. -/
def visits (answer : (action : S.Action) → σ → S.Answer action × σ) : Flow S α → σ → List σ
  | done _, s => [s]
  | ask action next, s =>
    let (reply, s') := answer action s
    s :: (next reply).visits answer s'

/-- All states that a run comes through (`visits`) have the property `I`. -/
def Throughout (answer : (action : S.Action) → σ → S.Answer action × σ) (I : σ → Prop)
    (m : Flow S α) (s : σ) : Prop :=
  ∀ s' ∈ m.visits answer s, I s'

section Throughout

variable {answer : (action : S.Action) → σ → S.Answer action × σ} {I : σ → Prop}
  {m : Flow S α} {f : α → Flow S β} {s : σ}

theorem throughout_done {a : α} (h : I s) : (done a : Flow S α).Throughout answer I s := by
  intro s' hs'
  cases List.mem_singleton.1 hs'
  exact h

theorem throughout_ask {action : S.Action} {next : S.Answer action → Flow S α} :
    (ask action next).Throughout answer I s ↔
      I s ∧ (next (answer action s).1).Throughout answer I (answer action s).2 :=
  List.forall_mem_cons

theorem Throughout.first (h : m.Throughout answer I s) : I s := by
  cases m with
  | done a => exact h s List.mem_cons_self
  | ask action next => exact (throughout_ask.1 h).1

theorem Throughout.last (h : m.Throughout answer I s) : I (m.run answer s).2 := by
  induction m generalizing s with
  | done a => exact h.first
  | ask action next ih => exact ih _ (throughout_ask.1 h).2

/-- What comes after a flow begins where the flow ends. -/
theorem Throughout.bind (hm : m.Throughout answer I s)
    (hf : (f (m.run answer s).1).Throughout answer I (m.run answer s).2) :
    (m.bind f).Throughout answer I s := by
  induction m generalizing s with
  | done a => exact hf
  | ask action next ih =>
    obtain ⟨hs, hnext⟩ := throughout_ask.1 hm
    exact throughout_ask.2 ⟨hs, ih _ hnext hf⟩

theorem run_inRight (answer : (action : (S.sum T).Action) → σ → (S.sum T).Answer action × σ)
    (m : Flow T α) (s : σ) :
    (m.inRight (S := S)).run answer s = m.run (fun action => answer (.inr action)) s := by
  induction m generalizing s with
  | done a => rfl
  | ask action next ih => exact ih _ _

theorem throughout_inRight
    (answer : (action : (S.sum T).Action) → σ → (S.sum T).Answer action × σ) {m : Flow T α} :
    (m.inRight (S := S)).Throughout answer I s ↔
      m.Throughout (fun action => answer (.inr action)) I s := by
  induction m generalizing s with
  | done a => rfl
  | ask action next ih => exact throughout_ask.trans ((and_congr_right fun _ => ih _).trans
      throughout_ask.symm)

end Throughout

/-! ## Which actions a flow asks for -/

/-- A flow asks for nothing but actions with the property `P`, whatever it is answered. -/
def Only (P : S.Action → Prop) : Flow S α → Prop
  | done _ => True
  | ask action next => P action ∧ ∀ reply, (next reply).Only P

section Only

variable {P : S.Action → Prop} {m : Flow S α} {f : α → Flow S β}

theorem only_perform {action : S.Action} (h : P action) : (perform action).Only P :=
  ⟨h, fun _ => trivial⟩

theorem Only.bind (hm : m.Only P) (hf : ∀ a, (f a).Only P) : (m.bind f).Only P := by
  induction m with
  | done a => exact hf a
  | ask action next ih => exact ⟨hm.1, fun reply => ih reply (hm.2 reply)⟩

theorem only_inLeft {P : (S.sum T).Action → Prop} (h : ∀ action, P (.inl action)) (m : Flow S α) :
    (m.inLeft (T := T)).Only P := by
  induction m with
  | done a => trivial
  | ask action next ih => exact ⟨h action, ih⟩

theorem only_inRight {P : (S.sum T).Action → Prop} (h : ∀ action, P (.inr action)) (m : Flow T α) :
    (m.inRight (S := S)).Only P := by
  induction m with
  | done a => trivial
  | ask action next ih => exact ⟨h action, ih⟩

theorem Only.mono {Q : S.Action → Prop} (hm : m.Only P) (h : ∀ action, P action → Q action) :
    m.Only Q := by
  induction m with
  | done a => trivial
  | ask action next ih => exact ⟨h action hm.1, fun reply => ih reply (hm.2 reply)⟩

/-- As one over two signatures (`inLeft`), a flow asks for what it asks for, and for nothing of the
    second. -/
theorem Only.inLeft (hm : m.Only P) :
    (m.inLeft (T := T)).Only fun action => Sum.elim P (fun _ => False) action := by
  induction m with
  | done a => trivial
  | ask action next ih => exact ⟨hm.1, fun reply => ih reply (hm.2 reply)⟩

/-- **A property that no action of a flow breaks is kept throughout** (`Only`, `Throughout`). -/
theorem Only.throughout {answer : (action : S.Action) → σ → S.Answer action × σ} {I : σ → Prop}
    {s : σ} (hm : m.Only P) (hstep : ∀ action s, P action → I s → I (answer action s).2)
    (hs : I s) : m.Throughout answer I s := by
  induction m generalizing s with
  | done a => exact throughout_done hs
  | ask action next ih =>
    have hnext := hstep action s hm.1 hs
    exact throughout_ask.2 ⟨hs, ih _ (hm.2 _) hnext⟩

end Only

end Flow

/-! ## Flows that may fail -/

namespace Fallible

variable {ε ε' : Type} {S : Signature} {α β σ : Type}

/-- All states that a run of a flow comes through have a property (`Flow.Throughout`), whether or not it
    fails. -/
def Throughout (answer : (action : S.Action) → σ → S.Answer action × σ) (I : σ → Prop)
    (m : Fallible ε S α) (s : σ) : Prop :=
  Flow.Throughout answer I m.run s

section Throughout

variable {answer : (action : S.Action) → σ → S.Answer action × σ} {I : σ → Prop} {s : σ}

theorem throughout_ofExcept (x : Except ε α) (h : I s) :
    Throughout answer I (ofExcept x : Fallible ε S α) s := by
  cases x with
  | ok a => exact Flow.throughout_done h
  | error fault => exact Flow.throughout_done h

theorem throughout_pure (a : α) (h : I s) : Throughout answer I (pure a : Fallible ε S α) s :=
  throughout_ofExcept (.ok a) h

theorem throughout_throw (fault : ε) (h : I s) :
    Throughout answer I (throw fault : Fallible ε S α) s :=
  throughout_ofExcept (.error fault) h

/-- What comes second is run only where the first part has come to a value, and has to keep `I` only
    then. -/
theorem Throughout.bind {m : Fallible ε S α} {f : α → Fallible ε S β}
    (hm : Throughout answer I m s)
    (hf : ∀ a s', runs answer m s = (.ok a, s') → I s' → Throughout answer I (f a) s') :
    Throughout answer I (m >>= f) s := by
  have hbind : Flow.Throughout answer I (m.run.bind (ExceptT.bindCont f)) s := by
    refine Flow.Throughout.bind hm ?_
    have hlast := hm.last
    rcases hrun : m.run.run answer s with ⟨a | fault, s'⟩
    · -- A fault ends the flow in the state that it was met in.
      rw [hrun] at hlast
      exact Flow.throughout_done hlast
    · rw [hrun] at hlast
      exact hf _ _ hrun hlast
  exact hbind

/-- What is done to the result of a flow asks for nothing. -/
theorem throughout_map {m : Flow S α} (hm : m.Throughout answer I s) (f : α → β) :
    (m.bind fun a => .done (f a)).Throughout answer I s :=
  hm.bind (Flow.throughout_done hm.last)

theorem Throughout.wrap {m : Fallible ε' S α} (hm : Throughout answer I m s) (f : ε' → ε) :
    Throughout answer I (Fallible.wrap f m) s := by
  have hbind := hm.last
  refine Flow.Throughout.bind (m := m.run) hm ?_
  rcases (m.run.run answer s).1 with a | fault
  · exact Flow.throughout_done hbind
  · exact Flow.throughout_done hbind

end Throughout

/-- A flow asks for nothing but actions with a property (`Flow.Only`), whether or not it fails. -/
def Only (P : S.Action → Prop) (m : Fallible ε S α) : Prop :=
  Flow.Only P m.run

section Only

variable {P : S.Action → Prop}

theorem only_ofExcept (x : Except ε α) : Only P (ofExcept x : Fallible ε S α) := by
  cases x with
  | ok a => trivial
  | error fault => trivial

theorem only_pure (a : α) : Only P (pure a : Fallible ε S α) :=
  trivial

theorem only_throw (fault : ε) : Only P (throw fault : Fallible ε S α) :=
  trivial

theorem Only.bind {m : Fallible ε S α} {f : α → Fallible ε S β} (hm : Only P m)
    (hf : ∀ a, Only P (f a)) : Only P (m >>= f) := by
  have hbind : Flow.Only P (m.run.bind (ExceptT.bindCont f)) := by
    refine Flow.Only.bind hm fun result => ?_
    cases result with
    | ok a => exact hf a
    | error fault => trivial
  exact hbind

theorem Only.wrap {m : Fallible ε' S α} (hm : Only P m) (f : ε' → ε) :
    Only P (Fallible.wrap f m) := by
  refine Flow.Only.bind (m := m.run) hm fun result => ?_
  cases result with
  | ok a => trivial
  | error fault => trivial

theorem Only.outcome {m : Fallible ε' S α} (hm : Only P m) :
    Only P (Fallible.outcome m : Fallible ε S (Except ε' α)) :=
  Flow.Only.bind (m := m.run) hm fun _ => trivial

end Only

end Fallible

end VolumeDriver
