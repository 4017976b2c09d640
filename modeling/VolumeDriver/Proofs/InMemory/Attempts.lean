import VolumeDriver.Proofs.InMemory.Leads
set_option autoImplicit false

/-! # Attempts of a call-out

A call-out that failed half-way may have left something behind. `Converges` says that this does not
matter: there is a set of pictures that no fault leads out of, and from each of them the call-out leads
to the same end. -/

namespace VolumeDriver.InMemory

open ControlPlane

/-- The world after attempts of a call-out, each with faults in its way. -/
def afterAttempts (m : Answering) (attempts : List (List (Option Fault))) (w : World) : World :=
  attempts.foldl (fun w faults => (m.run Disturbed.act ⟨w, faults⟩).2.world) w

/-- Whether a flow leads to one status and one picture from all pictures with the property `I`, and to no
    pictures without it, whatever faults it meets. -/
structure Converges (m : DriverRun Status) (I : Picture → Prop) (status : Status) (final : Picture) :
    Prop where
  leads : ∀ p, I p → DriverLeads p m (.ok status) final I
  final : I final

namespace Converges

variable {m : DriverRun Status} {I : Picture → Prop} {status : Status} {final : Picture} {w : World}

/-- A flow that leads nowhere else from where it leads to `Converges` there. -/
theorem stays (h : DriverLeads final m (.ok status) final (· = final)) :
    Converges m (· = final) status final where
  leads := by
    rintro p rfl
    exact h
  final := rfl

/-- A flow also `Converges` from before, if what it may leave behind there is known. -/
theorem before (h : Converges m I status final) {p : Picture}
    (hfirst : DriverLeads p m (.ok status) final fun q => q = p ∨ I q) :
    Converges m (fun q => q = p ∨ I q) status final where
  leads := by
    rintro q (rfl | hq)
    · exact hfirst
    · exact (h.leads q hq).mono fun _ => .inr
  final := .inr h.final

/-- An attempt keeps the invariant of `Converges`. -/
theorem attempt (h : Converges m I status final) (hw : w.Calm) (hI : I w.picture)
    (faults : List (Option Fault)) :
    (m.answer.run Disturbed.act ⟨w, faults⟩).2.world.Calm ∧
      I (m.answer.run Disturbed.act ⟨w, faults⟩).2.world.picture := by
  obtain ⟨hcalm, _, harrived⟩ := h.leads w.picture hI ⟨w, faults⟩ hw rfl
  rw [run_answer]
  refine ⟨hcalm, ?_⟩
  rcases harrived with ⟨_, hfinal⟩ | ⟨_, _, hI'⟩
  · exact hfinal ▸ h.final
  · exact hI'

/-- Any number of attempts keeps the invariant of `Converges`. -/
theorem attempts (h : Converges m I status final) (attempts : List (List (Option Fault)))
    (hw : w.Calm) (hI : I w.picture) :
    (afterAttempts m.answer attempts w).Calm ∧ I (afterAttempts m.answer attempts w).picture := by
  induction attempts generalizing w with
  | nil => exact ⟨hw, hI⟩
  | cons faults rest ih =>
    obtain ⟨hw', hI'⟩ := h.attempt hw hI faults
    exact ih hw' hI'

/-- An attempt that meets no fault ends as if it were the first one, after any number of `attempts`. -/
theorem again (h : Converges m I status final) (attempts : List (List (Option Fault)))
    (hw : w.Calm) (hI : I w.picture) :
    (m.answer.run World.act (afterAttempts m.answer attempts w)).1 = (m.answer.run World.act w).1 ∧
      (m.answer.run World.act (afterAttempts m.answer attempts w)).2.picture =
        (m.answer.run World.act w).2.picture := by
  obtain ⟨hw', hI'⟩ := h.attempts attempts hw hI
  obtain ⟨hfirst, _, hpicture⟩ := (h.leads w.picture hI).answers w hw rfl
  obtain ⟨hlast, _, hpicture'⟩ := (h.leads _ hI').answers _ hw' rfl
  exact ⟨hlast.trans hfirst.symm, hpicture'.trans hpicture.symm⟩

end Converges

/-! ## Undisturbed runs that succeed -/

/-- Whether a world that no fault disturbs has the picture `p`. -/
structure Shows (p : Picture) (d : Disturbed) : Prop where
  calm : d.world.Calm
  picture : d.world.picture = p
  undisturbed : d.faults = []

section Shows

variable {S : Signature} {ε α β : Type}
  {answer : (action : S.Action) → Disturbed → S.Answer action × Disturbed}
  {p p' : Picture} {E : Picture → Prop} {m : Fallible ε S α} {r : Except ε α} {d d' : Disturbed}

/-- An undisturbed run ends where the flow `Leads`. -/
theorem Leads.shows (h : Leads answer p m r p' E) (hd : Shows p d) :
    (Fallible.runs answer m d).1 = r ∧ Shows p' (Fallible.runs answer m d).2 := by
  obtain ⟨hcalm, hsuffix, harrived⟩ := h d hd.calm hd.picture
  rw [hd.undisturbed] at hsuffix
  rcases harrived with ⟨hx, hp'⟩ | ⟨⟨fault, hf⟩, _⟩
  · exact ⟨hx, hcalm, hp', List.suffix_nil.1 hsuffix⟩
  · rw [hd.undisturbed] at hf
    cases hf

/-- An undisturbed run that succeeds has come past its first part, which `Leads` to a value. -/
theorem Leads.proceeds {f : α → Fallible ε S β} {b : β} (h : Leads answer p m r p' E)
    (hd : Shows p d) (hrun : Fallible.runs answer (m >>= f) d = (.ok b, d')) :
    ∃ a d₁, r = .ok a ∧ Shows p' d₁ ∧ Fallible.runs answer (f a) d₁ = (.ok b, d') := by
  obtain ⟨a, d₁, hm, hf⟩ := Fallible.ok_of_runs_bind hrun
  have hends := h.shows hd
  rw [hm] at hends
  exact ⟨a, d₁, hends.1.symm, hends.2, hf⟩

end Shows

theorem ok_of_mapError {ε ε' α : Type} {x : Except ε α} {f : ε → ε'} {a : α}
    (h : x.mapError f = .ok a) : x = .ok a := by
  cases x with
  | error fault => cases h
  | ok b =>
    cases h
    rfl

end VolumeDriver.InMemory
