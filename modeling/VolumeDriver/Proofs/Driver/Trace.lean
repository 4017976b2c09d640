import VolumeDriver.Driver.Basic
import VolumeDriver.Proofs.Flow.Trace
set_option autoImplicit false

/-! # What a call-out has been answered

The traces (`Ends`) of what call-outs have in common: requests, searches and waits of the controller side,
and what comes before requests. -/

namespace VolumeDriver

open ControlPlane Fallible

/-! ## The controller side -/

namespace Controller

variable {ε α : Type}

/-- A request of the controller side and its answer. -/
def exchanged (e : Exchange) (answer : Except Fault e.Answer) : Event signature :=
  ⟨.exchange e, answer⟩

theorem ends_request {e : Exchange} {trace : List (Event signature)}
    {answer : Except Fault e.Answer} (h : Ends (request e) trace answer) :
    trace = [exchanged e answer] :=
  Flow.ends_perform (ends_ofFlow h)

/-- What `pollTimes` waited for was seen last. -/
theorem ends_pollTimes_ok {interval : Nat} {exhausted : ε} {look : Run ε (Option α)}
    {retries : Nat} {trace : List (Event signature)} {a : α}
    (h : Ends (pollTimes interval exhausted look retries) trace (.ok a)) :
    ∃ before last, trace = before ++ last ∧ Ends look last (.ok (some a)) := by
  induction retries generalizing trace with
  | zero => cases (ends_throw h).2
  | succ retries ih =>
    rw [pollTimes] at h
    obtain ⟨first, rest, seen, rfl, hlook, h⟩ := ends_bind_ok h
    cases seen with
    | some b =>
      obtain ⟨rfl, hb⟩ := ends_pure h
      cases hb
      exact ⟨[], first, by simp, hlook⟩
    | none =>
      obtain ⟨paused, rest, _, rfl, _, h⟩ := ends_bind_ok h
      obtain ⟨before, last, rfl, hlast⟩ := ih h
      exact ⟨first ++ paused ++ before, last, by simp, hlast⟩

/-- What `findOnPages` found is on one of the pages of the listing. -/
theorem ends_findOnPages_some {endless : Run ε (Option α)}
    {list : Option String → Run ε (Page α)} {p : α → Bool} {pages : Nat} {page : Option String}
    {trace : List (Event signature)} {a : α}
    (endless_fails : ∀ trace result, ¬Ends endless trace (.ok result))
    (h : Ends (findOnPages endless list p pages page) trace (.ok (some a))) :
    ∃ before listed after page listing, trace = before ++ (listed ++ after) ∧
      Ends (list page) listed (.ok listing) ∧ a ∈ listing.items ∧ p a := by
  induction pages generalizing page trace with
  | zero => exact absurd h (endless_fails _ _)
  | succ pages ih =>
    rw [findOnPages] at h
    obtain ⟨listed, rest, listing, rfl, hlist, h⟩ := ends_bind_ok h
    split at h
    · rename_i found hfound
      obtain ⟨rfl, ha⟩ := ends_pure h
      cases ha
      exact ⟨[], listed, [], page, listing, rfl, hlist, List.mem_of_find?_eq_some hfound,
        List.find?_some hfound⟩
    · cases (ends_pure h).2
    · obtain ⟨before, listed', after, page', listing', rfl, found⟩ := ih h
      exact ⟨listed ++ before, listed', after, page', listing', by simp, found⟩

end Controller

/-! ## The driver -/

/-- An event of the controller side as one of the driver's. -/
def Event.controlled (e : Event Controller.signature) : Event driverSignature :=
  e.inLeft

/-- A `Session` that was asked for. -/
def connected (session : Session) : Event Controller.signature :=
  ⟨.connect, .ok session⟩

theorem ends_onController_ok {ε α : Type} {wrap : ε → DriverFault} {m : Controller.Run ε α}
    {trace : List (Event driverSignature)} {a : α} (h : Ends (onController wrap m) trace (.ok a)) :
    ∃ events : List (Event Controller.signature),
      trace = events.map Event.controlled ∧ Ends m events (.ok a) :=
  Flow.ends_inLeft (ends_ofFlow (ends_wrap_ok h))

theorem ends_openSession_ok {trace : List (Event driverSignature)} {session : Session}
    (h : Ends openSession trace (.ok session)) : trace = [(connected session).controlled] := by
  obtain ⟨events, rfl, hconnect⟩ := ends_onController_ok h
  obtain rfl := Flow.ends_perform (ends_ofFlow hconnect)
  rfl

theorem ends_volumeOf_ok {options : Options} {trace : List (Event driverSignature)} {name : String}
    (h : Ends (volumeOf options) trace (.ok name)) :
    trace = [] ∧ options.volumeName? = some name := by
  rw [volumeOf] at h
  split at h
  · rename_i volume hvolume
    obtain ⟨rfl, hname⟩ := ends_pure h
    cases hname
    exact ⟨rfl, hvolume⟩
  · cases (ends_throw h).2

/-- An `answer` that reports success is the value of a flow that did not fail. -/
theorem ends_answer_success {m : DriverRun Status} {trace : List (Event driverSignature)}
    {status : Status} (h : Flow.Ends m.answer trace status) (hs : status.outcome = .success) :
    Ends m trace (.ok status) := by
  obtain ⟨first, rest, result, rfl, hm, hanswer⟩ := Flow.ends_bind h
  obtain ⟨rfl, rfl⟩ := Flow.ends_done hanswer
  rw [List.append_nil]
  cases result with
  | ok status => exact hm
  | error fault => cases hs

end VolumeDriver
