import VolumeDriver.Proofs.InMemory.Leads
set_option autoImplicit false

/-! # Which operations a flow asks for

Every exchange goes on record, whatever it is answered. `Asks P m` says that all that `m` puts on record
are operations with the property `P`. -/

namespace VolumeDriver.InMemory

open ControlPlane Controller

/-- Whether the operations that a flow asks for have the property `P`, answered or not. -/
def Asks {ε α : Type} (P : String → Prop) (m : Run ε α) : Prop :=
  ∀ d : Disturbed, ∃ calls, (Fallible.runs Disturbed.control m d).2.world.cloud.calls =
    d.world.cloud.calls ++ calls ∧ ∀ operation ∈ calls, P operation

section Asks

variable {ε ε' α β : Type} {P : String → Prop}

theorem asks_ofExcept (r : Except ε α) : Asks P (Fallible.ofExcept r : Run ε α) := by
  intro d
  rw [Fallible.runs_ofExcept]
  exact ⟨[], by simp⟩

theorem asks_pure (a : α) : Asks P (pure a : Run ε α) :=
  asks_ofExcept (.ok a)

theorem asks_throw (fault : ε) : Asks P (throw fault : Run ε α) :=
  asks_ofExcept (.error fault)

theorem Asks.bind {m : Run ε α} {f : α → Run ε β} (hm : Asks P m) (hf : ∀ a, Asks P (f a)) :
    Asks P (m >>= f) := by
  intro d
  obtain ⟨calls, hcalls, hP⟩ := hm d
  cases hx : (Fallible.runs Disturbed.control m d).1 with
  | error fault =>
    rw [Fallible.runs_bind_error (Prod.ext hx rfl)]
    exact ⟨calls, hcalls, hP⟩
  | ok a =>
    obtain ⟨calls', hcalls', hP'⟩ := hf a (Fallible.runs Disturbed.control m d).2
    rw [Fallible.runs_bind_ok (Prod.ext hx rfl)]
    refine ⟨calls ++ calls', by rw [hcalls', hcalls, List.append_assoc], ?_⟩
    intro operation ho
    exact (List.mem_append.1 ho).elim (hP operation) (hP' operation)

theorem Asks.wrap {m : Run ε' α} (hm : Asks P m) (f : ε' → ε) : Asks P (Fallible.wrap f m) := by
  intro d
  rw [Fallible.runs_wrap]
  exact hm d

theorem asks_request {e : Exchange} (h : P e.operation) : Asks P (request e) :=
  fun d => ⟨[e.operation], d.calls_exchange e, by simpa using h⟩

end Asks

end VolumeDriver.InMemory
