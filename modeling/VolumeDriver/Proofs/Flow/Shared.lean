import VolumeDriver.Proofs.Flow.Trace
import VolumeDriver.Proofs.Flow.Visits
set_option autoImplicit false

/-! # Flows over a state that others move on

Between two actions of a flow, others may move the state that it acts on. Where all they can do is to
move it on from one stage to a later one (`Course`), a flow may cope: `m.Copes K i Q` says that from
stage `i` on, whatever the others do between its actions, each of these moves the state as it may, and
the flow comes to a result with the property `Q`. What a flow relies on of the others is so what the
others guarantee. -/

namespace VolumeDriver

/-- A state that goes through stages (`At`), and the moves from one stage to another that an event may make
    (`Moves`). -/
structure Course (S : Signature) (σ ι : Type) where
  answer : (action : S.Action) → σ → S.Answer action × σ
  /-- the state is at a stage -/
  At : ι → σ → Prop
  /-- a stage is another one or comes after it -/
  Later : ι → ι → Prop
  Moves : Event S → ι → ι → Prop
  refl : ∀ i, Later i i
  trans : ∀ {i j k}, Later i j → Later j k → Later i k

/-- The `Course` as actions of the first of two signatures see it. -/
def Course.left {S T : Signature} {σ ι : Type} (K : Course (S.sum T) σ ι) : Course S σ ι where
  answer action := K.answer (.inl action)
  At := K.At
  Later := K.Later
  Moves e := K.Moves e.inLeft
  refl := K.refl
  trans := K.trans

namespace Flow

variable {S T : Signature} {α β σ ι : Type}

/-- From stage `i` on, a flow comes to a result that has the property `Q` at the stage that is reached by
    then and at all later ones, and each of its actions moves the state as it may (`Course.Moves`). -/
def Copes (K : Course S σ ι) : Flow S α → ι → (α → ι → Prop) → Prop
  | done a, i, Q => ∀ j, K.Later i j → Q a j
  | ask action next, i, Q => ∀ j s, K.Later i j → K.At j s →
    ∃ k, K.Moves ⟨action, (K.answer action s).1⟩ j k ∧ K.At k (K.answer action s).2 ∧
      (next (K.answer action s).1).Copes K k Q

section Copes

variable {K : Course S σ ι} {m : Flow S α} {f : α → Flow S β} {i j : ι} {Q R : α → ι → Prop}

/-- What `Copes` from a stage on does so from a later one. -/
theorem Copes.later (h : m.Copes K i Q) (hj : K.Later i j) : m.Copes K j Q := by
  cases m with
  | done a => exact fun k hk => h k (K.trans hj hk)
  | ask action next => exact fun k s hk => h k s (K.trans hj hk)

theorem Copes.imp (h : m.Copes K i Q) (hQ : ∀ a j, Q a j → R a j) : m.Copes K i R := by
  induction m generalizing i with
  | done a => exact fun j hj => hQ a j (h j hj)
  | ask action next ih =>
    intro j s hj hs
    obtain ⟨k, hmoves, hk, hnext⟩ := h j s hj hs
    exact ⟨k, hmoves, hk, ih _ hnext⟩

/-- What has the property at a stage has it at all later ones. -/
theorem Copes.stays (h : m.Copes K i Q) : m.Copes K i fun a j => ∀ k, K.Later j k → Q a k := by
  induction m generalizing i with
  | done a => exact fun j hj k hk => h k (K.trans hj hk)
  | ask action next ih =>
    intro j s hj hs
    obtain ⟨k, hmoves, hk, hnext⟩ := h j s hj hs
    exact ⟨k, hmoves, hk, ih _ hnext⟩

/-- What comes second has to cope (`Copes`) from the stage on that the first part has come to. -/
theorem Copes.bind {Q : β → ι → Prop} (h : m.Copes K i fun a j => (f a).Copes K j Q) :
    (m.bind f).Copes K i Q := by
  induction m generalizing i with
  | done a => exact h i (K.refl i)
  | ask action next ih =>
    intro j s hj hs
    obtain ⟨k, hmoves, hk, hnext⟩ := h j s hj hs
    exact ⟨k, hmoves, hk, ih _ hnext⟩

theorem Copes.inLeft {K : Course (S.sum T) σ ι} (h : m.Copes K.left i Q) :
    (m.inLeft (T := T)).Copes K i Q := by
  induction m generalizing i with
  | done a => exact h
  | ask action next ih =>
    intro j s hj hs
    obtain ⟨k, hmoves, hk, hnext⟩ := h j s hj hs
    exact ⟨k, hmoves, hk, ih _ hnext⟩

/-- **A flow that only asks for what is the same at all stages** (`Only`) comes to what it comes to
    alone. -/
theorem Only.copes {P : S.Action → Prop} (hm : m.Only P)
    (hsame : ∀ action, P action → ∃ answer, ∀ j s, K.At j s →
      (K.answer action s).1 = answer ∧ K.At j (K.answer action s).2 ∧ K.Moves ⟨action, answer⟩ j j)
    {s₀ : σ} {i₀ : ι} (h₀ : K.At i₀ s₀) (i : ι) :
    m.Copes K i fun a _ => a = (m.run K.answer s₀).1 := by
  induction m generalizing s₀ i with
  | done a => exact fun _ _ => rfl
  | ask action next ih =>
    obtain ⟨answer, hanswer⟩ := hsame action hm.1
    obtain ⟨halone, hrest, _⟩ := hanswer i₀ s₀ h₀
    intro j s _ hs
    obtain ⟨hreply, hk, hmoves⟩ := hanswer j s hs
    refine ⟨j, hreply ▸ hmoves, hk, ?_⟩
    have hrun : (ask action next).run K.answer s₀ =
        (next (K.answer action s₀).1).run K.answer (K.answer action s₀).2 := rfl
    rw [hrun, halone, ← hreply]
    exact ih (K.answer action s).1 (hm.2 _) hrest j

end Copes

end Flow

/-! ## Flows that may fail -/

namespace Fallible

variable {ε ε' : Type} {S : Signature} {α β σ ι : Type}

/-- A flow copes (`Flow.Copes`) and does not fail. -/
def Copes (K : Course S σ ι) (m : Fallible ε S α) (i : ι) (Q : α → ι → Prop) : Prop :=
  Flow.Copes K m.run i fun result j => ∃ a, result = .ok a ∧ Q a j

variable {K : Course S σ ι} {m : Fallible ε S α} {f : α → Fallible ε S β} {i j : ι}
  {Q R : α → ι → Prop}

theorem copes_pure {a : α} (h : ∀ j, K.Later i j → Q a j) :
    Copes K (pure a : Fallible ε S α) i Q :=
  fun j hj => ⟨a, rfl, h j hj⟩

theorem Copes.imp (h : Copes K m i Q) (hQ : ∀ a j, Q a j → R a j) : Copes K m i R :=
  Flow.Copes.imp h fun _ j ⟨a, hr, ha⟩ => ⟨a, hr, hQ a j ha⟩

theorem Copes.bind {Q : β → ι → Prop} (h : Copes K m i fun a j => Copes K (f a) j Q) :
    Copes K (m >>= f) i Q := by
  have hbind : Flow.Copes K (m.run.bind (ExceptT.bindCont f)) i
      fun result j => ∃ b, result = .ok b ∧ Q b j := by
    refine Flow.Copes.bind (Flow.Copes.imp h ?_)
    rintro _ j ⟨a, rfl, hrest⟩
    exact hrest
  exact hbind

theorem Copes.wrap {m : Fallible ε' S α} (h : Copes K m i Q) (f : ε' → ε) :
    Copes K (Fallible.wrap f m) i Q := by
  refine Flow.Copes.bind (m := m.run) (h.stays.imp fun result j hresult => ?_)
  obtain ⟨a, rfl, _⟩ := hresult j (K.refl j)
  intro k hk
  obtain ⟨a', ha', hQ⟩ := hresult k hk
  cases ha'
  exact ⟨a, rfl, hQ⟩

theorem Copes.ofFlow_inLeft {T : Signature} {K : Course (S.sum T) σ ι} (h : Copes K.left m i Q) :
    Copes K (.ofFlow m.run.inLeft) i Q :=
  Flow.Copes.inLeft h

/-- What goes on with the `outcome` of a flow has to cope with whatever that is. -/
theorem Copes.bind_outcome {m : Fallible ε' S α} {f : Except ε' α → Fallible ε S β}
    {Q : β → ι → Prop} (h : Flow.Copes K m.run i fun result j => Copes K (f result) j Q) :
    Copes K (Fallible.outcome m >>= f) i Q := by
  refine Copes.bind ?_
  refine Flow.Copes.bind (m := m.run) (h.stays.imp fun result j hresult => ?_)
  exact fun k hk => ⟨result, rfl, hresult k hk⟩

end Fallible

end VolumeDriver
