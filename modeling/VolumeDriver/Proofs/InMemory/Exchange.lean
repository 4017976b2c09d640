import VolumeDriver.InMemory.Cloud
import VolumeDriver.Proofs.Dictionary
set_option autoImplicit false

/-! # Exchanges in memory

An exchange is put on record (`Cloud.noted`); then it fails if it was made to, or is answered. -/

namespace VolumeDriver.InMemory.Cloud

open ControlPlane

/-- The control plane with an exchange on record. -/
def noted (c : Cloud) (e : Exchange) : Cloud :=
  { c with failures := (c.failures.pop e.operation).2, calls := c.calls ++ [e.operation] }

theorem exchange_cases (e : Exchange) (c : Cloud) :
    (∃ fault, c.exchange e = (.error fault, c.noted e)) ∨
      c.exchange e = (c.noted e).respond e := by
  simp only [exchange]
  split
  · exact .inl ⟨_, rfl⟩
  · exact .inr rfl

/-- A `madeUpId` with another number is another identifier. -/
theorem madeUpId_injective (kind : String) {m n : Nat} (h : madeUpId kind m = madeUpId kind n) :
    m = n := by
  have hdigits : Nat.toDigits 10 m = Nat.toDigits 10 n := by
    have hs : toString m = toString n := (String.append_right_inj _).1 h
    simpa only [Nat.toString_eq_repr, ← String.toList_inj, Nat.toList_repr] using hs
  rw [← Nat.ofDigitChars_ten_toDigits (n := m), hdigits, Nat.ofDigitChars_ten_toDigits]

/-! ## The first item with a property -/

theorem updateFirst_of_find? {α : Type} {p : α → Bool} (f : α → α) {l : List α} {a : α}
    (h : l.find? p = some a) :
    ∃ before after, l = before ++ a :: after ∧ updateFirst p f l = before ++ f a :: after := by
  induction l with
  | nil => cases h
  | cons b rest ih =>
    rw [List.find?_cons] at h
    rw [updateFirst]
    split at h
    · rename_i hp
      cases h
      rw [if_pos hp]
      exact ⟨[], rest, rfl, rfl⟩
    · rename_i hp
      obtain ⟨before, after, hl, hu⟩ := ih h
      rw [if_neg (by simp [hp]), hl, ← hl, hu]
      exact ⟨b :: before, after, by rw [hl, List.cons_append], rfl⟩

end VolumeDriver.InMemory.Cloud
