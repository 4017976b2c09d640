import VolumeDriver.Proofs.Flow.Trace
import VolumeDriver.Proofs.Flow.Visits
set_option autoImplicit false

/-! # What a run is answered

`Flow.events` lists the actions that a flow asks for when it is run against a state, each with the answer
that it gets. It is the trace that the flow ends with. Unlike a record that the state keeps, it does not
depend on what states are. -/

namespace VolumeDriver

namespace Flow

variable {S T : Signature} {α β σ : Type} {answer : (action : S.Action) → σ → S.Answer action × σ}

/-- What a run asks for and how it is answered, from the first `Event` to the last. -/
def events (answer : (action : S.Action) → σ → S.Answer action × σ) :
    Flow S α → σ → List (Event S)
  | done _, _ => []
  | ask action next, s =>
    let (reply, s') := answer action s
    ⟨action, reply⟩ :: (next reply).events answer s'

variable (answer) in
/-- A run `Ends` in what it comes to, with its `events` for a trace. -/
theorem ends_events (m : Flow S α) (s : σ) : m.Ends (m.events answer s) (m.run answer s).1 := by
  induction m generalizing s with
  | done a => exact .stop _
  | ask action next ih => exact .step (ih _ _)

/-- The `events` of what comes after a flow come after those of the flow. -/
theorem events_bind (m : Flow S α) (f : α → Flow S β) (s : σ) :
    (m.bind f).events answer s =
      m.events answer s ++ (f (m.run answer s).1).events answer (m.run answer s).2 := by
  induction m generalizing s with
  | done a => rfl
  | ask action next ih => exact congrArg (List.cons _) (ih _ _)

theorem events_inLeft (answer : (action : (S.sum T).Action) → σ → (S.sum T).Answer action × σ)
    (m : Flow S α) (s : σ) : (m.inLeft (T := T)).events answer s =
      (m.events (fun action => answer (.inl action)) s).map Event.inLeft := by
  induction m generalizing s with
  | done a => rfl
  | ask action next ih => exact congrArg (List.cons _) (ih _ _)

/-- The state that the actions of a trace lead to when `answer` is given them one after the other. -/
def replay (answer : (action : S.Action) → σ → S.Answer action × σ) (trace : List (Event S)) (s : σ) :
    σ :=
  trace.foldl (fun s e => (answer e.action s).2) s

theorem replay_concat (trace : List (Event S)) (e : Event S) (s : σ) :
    replay answer (trace ++ [e]) s = (answer e.action (replay answer trace s)).2 := by
  simp [replay]

/-- What `Flow.run` leaves is what `replay` makes of its `events`. -/
theorem run_eq_replay (m : Flow S α) (s : σ) :
    (m.run answer s).2 = replay answer (m.events answer s) s := by
  induction m generalizing s with
  | done a => rfl
  | ask action next ih => exact ih _ _

/-- What an event of a run is answered is up to the state that the events before it lead to (`replay`). -/
theorem answer_of_events {m : Flow S α} {s : σ} {before afterwards : List (Event S)} {e : Event S}
    (h : m.events answer s = before ++ e :: afterwards) :
    (answer e.action (replay answer before s)).1 = e.answer := by
  induction m generalizing s before with
  | done a => simp [events] at h
  | ask action next ih =>
    cases before with
    | nil =>
      obtain ⟨rfl, -⟩ := List.cons.inj h
      rfl
    | cons first before =>
      obtain ⟨rfl, hrest⟩ := List.cons.inj h
      show (answer e.action (replay answer before (answer action s).2)).1 = e.answer
      exact ih _ hrest

/-- Only what a flow may ask for (`Only`) is in the traces that it `Ends` with. -/
theorem Only.ends {P : S.Action → Prop} {m : Flow S α} {trace : List (Event S)} {a : α}
    (hm : m.Only P) (h : m.Ends trace a) : ∀ e ∈ trace, P e.action := by
  induction m generalizing trace with
  | done b =>
    obtain ⟨rfl, _⟩ := ends_done h
    exact fun e he => nomatch he
  | ask action next ih =>
    cases h with
    | step path =>
      intro e he
      rcases List.mem_cons.1 he with rfl | he
      · exact hm.1
      · exact ih _ (hm.2 _) path e he

/-- **What a flow is not told makes no difference to it.** Where states are related in a way that all
    actions of a flow (`Only`) keep, and that leaves them with the same answers, two runs of the flow come
    to the same by the same `events`. -/
theorem Only.agree {P : S.Action → Prop} {R : σ → σ → Prop} {m : Flow S α} (hm : m.Only P)
    (hstep : ∀ action s t, P action → R s t →
      (answer action s).1 = (answer action t).1 ∧ R (answer action s).2 (answer action t).2)
    {s t : σ} (h : R s t) :
    (m.run answer s).1 = (m.run answer t).1 ∧ m.events answer s = m.events answer t ∧
      R (m.run answer s).2 (m.run answer t).2 := by
  induction m generalizing s t with
  | done a => exact ⟨rfl, rfl, h⟩
  | ask action next ih =>
    have hboth := hstep action s t hm.1 h
    rcases hs : answer action s with ⟨reply, s'⟩
    rcases ht : answer action t with ⟨reply', t'⟩
    rw [hs, ht] at hboth
    obtain ⟨rfl, hkept⟩ := hboth
    obtain ⟨hresult, hevents, hrest⟩ := ih reply (hm.2 _) hkept
    simp only [run, events, hs, ht]
    exact ⟨hresult, congrArg _ hevents, hrest⟩

end Flow

namespace Fallible

variable {ε ε' : Type} {S : Signature} {α β σ : Type}
  {answer : (action : S.Action) → σ → S.Answer action × σ} {m : Fallible ε S α}
  {f : α → Fallible ε S β} {s s' : σ}

theorem events_bind_ok {a : α} (h : runs answer m s = (.ok a, s')) :
    (m >>= f).run.events answer s = m.run.events answer s ++ (f a).run.events answer s' := by
  rw [runs] at h
  refine (Flow.events_bind m.run (ExceptT.bindCont f) s).trans ?_
  rw [h]
  rfl

/-- What has failed asks for nothing any more: `events` ends with the first part. -/
theorem events_bind_error {fault : ε} (h : runs answer m s = (.error fault, s')) :
    (m >>= f).run.events answer s = m.run.events answer s := by
  rw [runs] at h
  refine (Flow.events_bind m.run (ExceptT.bindCont f) s).trans ?_
  rw [h]
  exact List.append_nil _

theorem events_wrap (wrap : ε' → ε) (m : Fallible ε' S α) (s : σ) :
    (Fallible.wrap wrap m).run.events answer s = m.run.events answer s := by
  refine (Flow.events_bind m.run _ s).trans ?_
  cases (m.run.run answer s).1 <;> exact List.append_nil _

end Fallible

end VolumeDriver
