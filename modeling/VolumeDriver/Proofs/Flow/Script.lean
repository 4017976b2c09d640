import Mathlib.Data.ENat.Lattice
import VolumeDriver.Proofs.Flow.Run
set_option autoImplicit false

/-! # Answers that were laid down in advance

A `Script` says of every action how it is answered each time it is asked for. What a run has asked for is
the state that a script is followed against. `leading` counts how often a thing is seen before it is not,
which may be for ever, and `inTurns` is what looks with pauses between them ask for. -/

namespace VolumeDriver

/-- How each action is answered the first time, the second time and so on. -/
abbrev Script (S : Signature) : Type :=
  (action : S.Action) → Nat → S.Answer action

/-- Follows a `Script`; the state is what has been asked for. -/
def Script.answer {S : Signature} [DecidableEq S.Action] (script : Script S) (action : S.Action)
    (asked : List S.Action) : S.Answer action × List S.Action :=
  (script action (asked.count action), asked ++ [action])

/-! ## How often a thing is seen first -/

/-- The number of leading indices with a property, which is infinite if all have it. -/
noncomputable def leading (p : Nat → Prop) : ℕ∞ :=
  ⨅ (i : Nat) (_ : ¬p i), (i : ℕ∞)

section leading

variable {p : Nat → Prop} {n k : Nat}

theorem natCast_le_leading_iff : (n : ℕ∞) ≤ leading p ↔ ∀ i < n, p i := by
  simp only [leading, le_iInf_iff, Nat.cast_le]
  constructor
  · intro h i hi
    by_contra hp
    exact absurd (h i hp) (Nat.not_le_of_lt hi)
  · intro h i hp
    by_contra hi
    exact hp (h i (Nat.lt_of_not_le hi))

theorem leading_eq_natCast_iff : leading p = k ↔ (∀ i < k, p i) ∧ ¬p k := by
  have hsucc : ((k + 1 : Nat) : ℕ∞) ≤ leading p ↔ ∀ i < k + 1, p i := natCast_le_leading_iff
  constructor
  · intro h
    have hbefore := natCast_le_leading_iff.1 h.ge
    refine ⟨hbefore, fun hk => ?_⟩
    have hall : ∀ i < k + 1, p i := by
      intro i hi
      rcases Nat.lt_succ_iff_lt_or_eq.1 hi with hi | rfl
      · exact hbefore i hi
      · exact hk
    rw [h] at hsucc
    exact absurd (Nat.cast_le.1 (hsucc.2 hall)) (Nat.not_succ_le_self k)
  · rintro ⟨hbefore, hk⟩
    refine le_antisymm (iInf₂_le k hk) (natCast_le_leading_iff.2 hbefore)

/-- Either a thing is seen as often as one looks, or it is not seen some time before: `leading` is at least
    `n`, or is some `k` below. -/
theorem le_leading_or (p : Nat → Prop) (n : Nat) :
    (n : ℕ∞) ≤ leading p ∨ ∃ k < n, leading p = k := by
  rcases le_or_gt (n : ℕ∞) (leading p) with h | h
  · exact .inl h
  · obtain ⟨k, hk⟩ := ENat.ne_top_iff_exists.1 h.ne_top
    rw [← hk] at h
    exact .inr ⟨k, Nat.cast_lt.1 h, hk.symm⟩

end leading

/-! ## Looks and pauses -/

section inTurns

variable {A : Type}

/-- What is asked for by so many looks, with a pause after each of the first so many. -/
def inTurns (look pause : A) (looks pauses : Nat) : List A :=
  (List.replicate pauses [look, pause]).flatten ++ List.replicate (looks - pauses) look

theorem inTurns_succ (look pause : A) (looks pauses : Nat) :
    inTurns look pause (looks + 1) (pauses + 1) = look :: pause :: inTurns look pause looks pauses := by
  simp [inTurns, List.replicate_succ]

variable [DecidableEq A] {look pause : A} (hne : look ≠ pause) {looks pauses : Nat}

include hne

theorem count_look_inTurns (h : pauses ≤ looks) :
    (inTurns look pause looks pauses).count look = looks := by
  simp [inTurns, List.count_flatten, hne.symm]
  omega

theorem count_pause_inTurns : (inTurns look pause looks pauses).count pause = pauses := by
  simp [inTurns, List.count_flatten, List.count_replicate, hne]

/-- The looks before one that comes some time after a look with a pause. -/
theorem count_look_pause (asked : List A) (i : Nat) :
    (asked ++ [look, pause]).count look + i = asked.count look + (i + 1) := by
  simp [hne.symm]
  omega

end inTurns

/-! ## Waits -/

section Waits

variable {A ε α : Type} [DecidableEq A]

/-- How a wait goes that may look `bound` times and pauses between its looks, or also after the last one:
    `rests` times at most. What it sees at its looks is `inProgress` or decides what it comes to. -/
structure Waits (bound rests : Nat) (inProgress : Nat → Prop) (exhausted : ε)
    (decided : Nat → Except ε α) (look pause : A) (run : Except ε α × List A) : Prop where
  looks : (run.2.count look : ℕ∞) = min (bound : ℕ∞) (leading inProgress + 1)
  pauses : (run.2.count pause : ℕ∞) = min (rests : ℕ∞) (leading inProgress)
  order : run.2 = inTurns look pause (run.2.count look) (run.2.count pause)
  exhausted : (bound : ℕ∞) ≤ leading inProgress → run.1 = .error exhausted
  decided : ∀ i < bound, leading inProgress = i → run.1 = decided i

variable {bound rests : Nat} {inProgress : Nat → Prop} {exhausted : ε} {decided : Nat → Except ε α}
  {look pause : A} {run : Except ε α × List A}

theorem waits_of_cases (hne : look ≠ pause) (hrests : rests ≤ bound) (hbound : bound ≤ rests + 1)
    (hvain : (∀ i < bound, inProgress i) →
      run = (.error exhausted, inTurns look pause bound rests))
    (hfirst : ∀ k < bound, (∀ i < k, inProgress i) → ¬inProgress k →
      run = (decided k, inTurns look pause (k + 1) k)) :
    Waits bound rests inProgress exhausted decided look pause run := by
  rcases le_leading_or inProgress bound with hall | ⟨k, hk, hleading⟩
  · -- All looks are in vain.
    have hrun := hvain (natCast_le_leading_iff.1 hall)
    have hlooks : run.2.count look = bound := by rw [hrun]; exact count_look_inTurns hne hrests
    have hpauses : run.2.count pause = rests := by rw [hrun]; exact count_pause_inTurns hne
    have hfew : (rests : ℕ∞) ≤ leading inProgress := le_trans (Nat.cast_le.2 hrests) hall
    refine ⟨?_, ?_, ?_, ?_, ?_⟩
    · rw [hlooks, min_eq_left (le_trans hall le_self_add)]
    · rw [hpauses, min_eq_left hfew]
    · rw [hlooks, hpauses, hrun]
    · intro _
      rw [hrun]
    · intro i hi hleading
      rw [hleading] at hall
      exact absurd (Nat.cast_le.1 hall) (Nat.not_le_of_lt hi)
  · -- There is a first look that decides.
    obtain ⟨hbefore, hat⟩ := leading_eq_natCast_iff.1 hleading
    have hrun := hfirst k hk hbefore hat
    have hlooks : run.2.count look = k + 1 := by
      rw [hrun]; exact count_look_inTurns hne (Nat.le_succ k)
    have hpauses : run.2.count pause = k := by rw [hrun]; exact count_pause_inTurns hne
    refine ⟨?_, ?_, ?_, ?_, ?_⟩
    · rw [hlooks, hleading, min_eq_right (by exact_mod_cast hk)]
      rfl
    · rw [hpauses, hleading, min_eq_right (by exact_mod_cast (by omega : k ≤ rests))]
    · rw [hlooks, hpauses, hrun]
    · intro hall
      rw [hleading] at hall
      exact absurd (Nat.cast_le.1 hall) (Nat.not_le_of_lt hk)
    · intro i _ hi
      rw [hleading] at hi
      rw [hrun, Nat.cast_inj.1 hi]

end Waits

end VolumeDriver
