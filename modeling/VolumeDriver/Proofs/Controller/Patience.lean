import VolumeDriver.Controller.Patience
set_option autoImplicit false

/-! # What loops keep

A property of flows that sequences keep is kept by the loops that are made of sequences: `List.foldlM`,
`foldPages` and `findOnPages`. -/

namespace VolumeDriver.Controller

open ControlPlane

variable {m : Type → Type} [Monad m] {P : {α : Type} → m α → Prop} {α β : Type}

/-- A property that sequences keep, `List.foldlM` keeps. -/
theorem foldlM_closed (hpure : ∀ {γ : Type} (c : γ), P (pure c))
    (hbind : ∀ {γ δ : Type} {x : m γ} {f : γ → m δ}, P x → (∀ c, P (f c)) → P (x >>= f))
    {step : β → α → m β} (hstep : ∀ acc a, P (step acc a)) (items : List α) (acc : β) :
    P (items.foldlM step acc) := by
  induction items generalizing acc with
  | nil => exact hpure acc
  | cons a items ih =>
    rw [List.foldlM_cons]
    exact hbind (hstep acc a) ih

/-- A property that sequences keep, `foldPages` keeps. -/
theorem foldPages_closed (hpure : ∀ {γ : Type} (c : γ), P (pure c))
    (hbind : ∀ {γ δ : Type} {x : m γ} {f : γ → m δ}, P x → (∀ c, P (f c)) → P (x >>= f))
    {endless : m β} {list : Option String → m (Page α)} {step : β → List α → m β}
    (hendless : P endless) (hlist : ∀ page, P (list page)) (hstep : ∀ acc items, P (step acc items))
    (pages : Nat) (acc : β) (page : Option String) :
    P (foldPages endless list step pages acc page) := by
  induction pages generalizing acc page with
  | zero => exact hendless
  | succ pages ih =>
    refine hbind (hlist page) fun listing => hbind (hstep acc listing.items) fun acc => ?_
    split
    · exact hpure acc
    · exact ih _ _

/-- A property that sequences keep, `findOnPages` keeps. -/
theorem findOnPages_closed (hpure : ∀ {γ : Type} (c : γ), P (pure c))
    (hbind : ∀ {γ δ : Type} {x : m γ} {f : γ → m δ}, P x → (∀ c, P (f c)) → P (x >>= f))
    {endless : m (Option α)} {list : Option String → m (Page α)} {p : α → Bool}
    (hendless : P endless) (hlist : ∀ page, P (list page)) (pages : Nat) (page : Option String) :
    P (findOnPages endless list p pages page) := by
  induction pages generalizing page with
  | zero => exact hendless
  | succ pages ih =>
    refine hbind (hlist page) fun listing => ?_
    split
    · exact hpure _
    · exact hpure _
    · exact ih _

end VolumeDriver.Controller
