import VolumeDriver.Flow
set_option autoImplicit false

/-! # What a flow comes to against a state

`Fallible.runs` runs a flow that may fail against a state that answers every action. A flow that is
composed of others is run by running these one after the other, up to the first that fails. -/

namespace VolumeDriver

namespace Flow

variable {S T : Signature} {α σ : Type}

theorem run_inLeft (answer : (action : (S.sum T).Action) → σ → (S.sum T).Answer action × σ)
    (m : Flow S α) (s : σ) :
    (m.inLeft (T := T)).run answer s = m.run (fun action => answer (.inl action)) s := by
  induction m generalizing s with
  | done a => rfl
  | ask action next ih => exact ih _ _

end Flow

namespace Fallible

variable {ε ε' : Type} {S : Signature} {α β σ : Type}
  (answer : (action : S.Action) → σ → S.Answer action × σ)

/-- What a flow that may fail comes to against a state (`Flow.run`), and the state afterwards. -/
def runs (m : Fallible ε S α) (s : σ) : Except ε α × σ :=
  Flow.run answer m.run s

theorem runs_bind (m : Fallible ε S α) (f : α → Fallible ε S β) (s : σ) :
    runs answer (m >>= f) s =
      match runs answer m s with
      | (.ok a, s) => runs answer (f a) s
      | (.error fault, s) => (.error fault, s) := by
  have h := Flow.run_bind answer m.run (ExceptT.bindCont f) s
  refine h.trans ?_
  rw [runs]
  rcases m.run.run answer s with ⟨a | fault, s'⟩ <;> rfl

variable {answer}

/-- Where the first part of a bind comes to a value, the second part goes on with it. -/
theorem runs_bind_ok {m : Fallible ε S α} {f : α → Fallible ε S β} {s s' : σ} {a : α}
    (h : runs answer m s = (.ok a, s')) : runs answer (m >>= f) s = runs answer (f a) s' := by
  rw [runs_bind, h]

/-- Where the first part fails, everything has failed. -/
theorem runs_bind_error {m : Fallible ε S α} {f : α → Fallible ε S β} {s s' : σ} {fault : ε}
    (h : runs answer m s = (.error fault, s')) :
    runs answer (m >>= f) s = (.error fault, s') := by
  rw [runs_bind, h]

/-- Where the whole comes to a value, the first part does. -/
theorem ok_of_runs_bind {m : Fallible ε S α} {f : α → Fallible ε S β} {s s' : σ} {b : β}
    (h : runs answer (m >>= f) s = (.ok b, s')) :
    ∃ a s₁, runs answer m s = (.ok a, s₁) ∧ runs answer (f a) s₁ = (.ok b, s') := by
  rw [runs_bind] at h
  rcases hm : runs answer m s with ⟨a | fault, s₁⟩
  · rw [hm] at h
    cases h
  · rw [hm] at h
    exact ⟨_, _, rfl, h⟩

/-- What a run comes to can be decided where values can be compared (`Except.toOption`), whatever there is
    of faults. -/
theorem runs_of_toOption {m : Fallible ε S α} {s : σ} {a : α}
    (h : (runs answer m s).1.toOption = some a) :
    runs answer m s = (.ok a, (runs answer m s).2) := by
  rcases hm : runs answer m s with ⟨fault | b, s'⟩
  · rw [hm] at h
    cases h
  · rw [hm] at h
    rw [show b = a from Option.some.inj h]

/-- The fault of a result that is one. -/
def fault? : Except ε α → Option ε
  | .ok _ => none
  | .error fault => some fault

/-- The same of what a run fails with, by `fault?`. -/
theorem runs_of_fault? {m : Fallible ε S α} {s : σ} {fault : ε}
    (h : fault? (runs answer m s).1 = some fault) :
    runs answer m s = (.error fault, (runs answer m s).2) := by
  rcases hm : runs answer m s with ⟨refusal | a, s'⟩
  · rw [hm] at h
    rw [show refusal = fault from Option.some.inj h]
  · rw [hm] at h
    cases h

variable (answer)

@[simp] theorem runs_ofExcept (x : Except ε α) (s : σ) :
    runs answer (ofExcept x : Fallible ε S α) s = (x, s) := by
  cases x <;> rfl

variable {answer} in
/-- What comes to a value without an action, as `ofExcept` does, is that value. -/
theorem ok_of_runs_ofExcept {x : Except ε α} {s s' : σ} {a : α}
    (h : runs answer (ofExcept x : Fallible ε S α) s = (.ok a, s')) : x = .ok a ∧ s = s' := by
  rw [runs_ofExcept] at h
  exact Prod.mk.inj h

@[simp] theorem runs_wrap (f : ε' → ε) (m : Fallible ε' S α) (s : σ) :
    runs answer (wrap f m) s = ((runs answer m s).1.mapError f, (runs answer m s).2) := by
  refine (Flow.run_bind answer m.run _ s).trans ?_
  rw [runs]
  rcases m.run.run answer s with ⟨a | fault, s'⟩ <;> rfl

variable {answer} in
/-- A flow that comes to a value with its faults wrapped (`wrap`) comes to it without. -/
theorem ok_of_runs_wrap {f : ε' → ε} {m : Fallible ε' S α} {s s' : σ} {a : α}
    (h : runs answer (wrap f m) s = (.ok a, s')) : runs answer m s = (.ok a, s') := by
  rw [runs_wrap] at h
  rcases hm : runs answer m s with ⟨fault | b, s₁⟩
  · rw [hm] at h
    cases h
  · rw [hm] at h
    cases h
    rfl

@[simp] theorem runs_outcome (m : Fallible ε' S α) (s : σ) :
    runs answer (outcome m : Fallible ε S (Except ε' α)) s =
      (.ok (runs answer m s).1, (runs answer m s).2) :=
  Flow.run_bind answer m.run _ s

/-- A flow that cannot fail comes to its result. -/
@[simp] theorem runs_lift (m : Flow S α) (s : σ) :
    runs answer (ExceptT.lift m : Fallible ε S α) s =
      (.ok (Flow.run answer m s).1, (Flow.run answer m s).2) :=
  Flow.run_bind answer m _ s

end Fallible

end VolumeDriver
