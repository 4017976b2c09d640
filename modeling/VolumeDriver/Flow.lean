set_option autoImplicit false

/-! # Flows: decisions between actions

A driver decides; something else acts. `Flow` is a driver's side of that: a tree that ends in a result
or asks for one action and goes on with its answer. A flow can be run against any world that answers
the actions of its signature: a state (`Flow.run`), a monad such as `IO` (`Flow.interpret`), or flows
over another signature (`Flow.expand`). What a flow does between two actions cannot be interleaved
with anything, so a tree also says where other flows may come in between.

A flow that may fail is `Fallible ε S α`: a flow whose result is a fault or a value. -/

namespace VolumeDriver

/-- The actions of a kind of flow, and the type of each one's answer. -/
structure Signature where
  Action : Type
  Answer : Action → Type

/-- A tree of actions that ends in results. -/
inductive Flow (S : Signature) (α : Type) : Type
  | done (result : α)
  | ask (action : S.Action) (next : S.Answer action → Flow S α)

namespace Flow

variable {S T : Signature} {α β γ σ : Type}

/-- One action, whose answer is the result of the `Flow`. -/
def perform (action : S.Action) : Flow S (S.Answer action) :=
  .ask action .done

/-- The flow that goes on with `f` where the first one ends. -/
def bind : Flow S α → (α → Flow S β) → Flow S β
  | done a, f => f a
  | ask action next, f => ask action fun answer => (next answer).bind f

instance : Monad (Flow S) where
  pure := done
  bind := bind

theorem bind_done (m : Flow S α) : m.bind done = m := by
  induction m with
  | done a => rfl
  | ask action next ih => simp only [bind, ih]

theorem bind_assoc (m : Flow S α) (f : α → Flow S β) (g : β → Flow S γ) :
    (m.bind f).bind g = m.bind fun a => (f a).bind g := by
  induction m with
  | done a => rfl
  | ask action next ih => simp only [bind, ih]

instance : LawfulMonad (Flow S) :=
  .mk' (Flow S) (fun m => bind_done m) (fun _ _ => rfl) (fun m f g => bind_assoc m f g)
    (fun _ _ => rfl) (fun _ _ => rfl) (fun _ _ => rfl) (fun _ _ => rfl)

/-! ## Running -/

/-- Runs a `Flow` against a state that answers every action. -/
def run (answer : (action : S.Action) → σ → S.Answer action × σ) : Flow S α → σ → α × σ
  | done a, s => (a, s)
  | ask action next, s =>
    let (reply, s) := answer action s
    (next reply).run answer s

/-- Runs a `Flow` in a monad that answers every action. -/
def interpret {m : Type → Type} [Monad m] (answer : (action : S.Action) → m (S.Answer action)) :
    Flow S α → m α
  | done a => pure a
  | ask action next => answer action >>= fun reply => (next reply).interpret answer

/-- A flow over another signature, with every action replaced by the flow that `answer` gives. -/
def expand (answer : (action : S.Action) → Flow T (S.Answer action)) : Flow S α → Flow T α
  | done a => done a
  | ask action next => (answer action).bind fun reply => (next reply).expand answer

theorem run_bind (answer : (action : S.Action) → σ → S.Answer action × σ) (m : Flow S α)
    (f : α → Flow S β) (s : σ) :
    (m.bind f).run answer s = (f (m.run answer s).1).run answer (m.run answer s).2 := by
  induction m generalizing s with
  | done a => rfl
  | ask action next ih => simp only [bind, run, ih]

end Flow

/-! ## Signatures side by side -/

/-- The actions of either of two signatures, `Sum.inl` for the first and `Sum.inr` for the second. -/
def Signature.sum (S T : Signature) : Signature where
  Action := S.Action ⊕ T.Action
  Answer
    | .inl action => S.Answer action
    | .inr action => T.Answer action

namespace Flow

variable {S T : Signature} {α : Type}

/-- A flow over the first of two signatures as one over both. -/
def inLeft (m : Flow S α) : Flow (S.sum T) α :=
  m.expand fun action => perform (S := S.sum T) (.inl action)

/-- A flow over the second of two signatures as one over both. -/
def inRight (m : Flow T α) : Flow (S.sum T) α :=
  m.expand fun action => perform (S := S.sum T) (.inr action)

end Flow

/-! ## Flows that may fail -/

/-- A `Flow` that ends in a fault or a value. -/
abbrev Fallible (ε : Type) (S : Signature) (α : Type) : Type :=
  ExceptT ε (Flow S) α

namespace Fallible

variable {ε ε' : Type} {S : Signature} {α : Type}

/-- The flow with `wrap` around its faults. -/
def wrap (wrap : ε' → ε) (m : Fallible ε' S α) : Fallible ε S α :=
  ExceptT.mk do
    match ← m.run with
    | .ok a => return .ok a
    | .error fault => return .error (wrap fault)

/-- The flow with its fault or value as its value, as an `Except`. -/
def outcome (m : Fallible ε' S α) : Fallible ε S (Except ε' α) :=
  ExceptT.mk (m.run.bind fun result => .done (.ok result))

/-- A `Flow` whose result may be a fault, as a `Fallible`. -/
def ofFlow (m : Flow S (Except ε α)) : Fallible ε S α :=
  ExceptT.mk m

/-- A result that may be a fault, as a `Fallible` without actions. -/
def ofExcept : Except ε α → Fallible ε S α
  | .ok a => pure a
  | .error fault => throw fault

end Fallible

end VolumeDriver
