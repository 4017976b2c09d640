import VolumeDriver.Driver.Route
import VolumeDriver.Proofs.Flow.Visits
set_option autoImplicit false

/-! # The answer to a call-out that is read

`Route.answer` is what becomes of a call-out once its arguments are read and the program's name is looked
up: the driver is chosen, and its flow for the call-out is the answer. -/

namespace VolumeDriver

/-- Chooses the driver for a call-out by the `Route` and answers with it. -/
def Route.answer (timing : Timing) (route : Route) (callOut : CallOut) : Answering := do
  match ← (route.select callOut).run with
  | .ok family => (driverFor timing family).dispatch callOut
  | .error fault => return .failure fault.message

section Execute

variable {timing : Timing} {table : List (String × Route)} {args : List String} {route : Route}

/-- Under a name that `Route.lookup` does not find, `execute` refuses everything. -/
theorem execute_of_lookup_error {fault : DriverFault}
    (h : Route.lookup table (args.headD "") = .error fault) :
    execute timing table args = .done (.failure fault.message) := by
  rw [execute, chooseDriver, h]
  rfl

theorem execute_of_parse_error {fault : CallOut.Fault}
    (hlookup : Route.lookup table (args.headD "") = .ok route)
    (h : CallOut.parse args = .error fault) :
    execute timing table args = .done (.failure (DriverFault.callOut fault).message) := by
  rw [execute, chooseDriver, hlookup, h]
  rfl

theorem execute_of_parse {callOut : CallOut}
    (hlookup : Route.lookup table (args.headD "") = .ok route)
    (h : CallOut.parse args = .ok callOut) :
    execute timing table args = route.answer timing callOut := by
  rw [execute, chooseDriver, hlookup, h]
  -- What is read without a fault leaves the choice of the driver to come first.
  refine (Flow.bind_assoc (route.select callOut).run _ _).trans ?_
  refine congrArg (Flow.bind (route.select callOut).run) ?_
  funext family
  cases family with
  | error fault => rfl
  | ok family => rfl

end Execute

/-- Arguments that are refused `execute` answers with a failure, and the others as the call-out that
    `CallOut.parse` reads off them. -/
theorem execute_cases (timing : Timing) (table : List (String × Route)) (args : List String) :
    (∃ status, execute timing table args = .done status) ∨
      ∃ route callOut, Route.lookup table (args.headD "") = .ok route ∧
        CallOut.parse args = .ok callOut ∧ execute timing table args = route.answer timing callOut := by
  cases hlookup : Route.lookup table (args.headD "") with
  | error fault => exact .inl ⟨_, execute_of_lookup_error hlookup⟩
  | ok route =>
    cases hparse : CallOut.parse args with
    | error fault => exact .inl ⟨_, execute_of_parse_error hlookup hparse⟩
    | ok callOut => exact .inr ⟨route, callOut, rfl, rfl, execute_of_parse hlookup hparse⟩

/-! ## Which driver answers -/

/-- The `StorageFamily` that a call-out is about if it is not an unmount. -/
def claimedBy (callOut : CallOut) : Except DriverFault StorageFamily :=
  match callOut.volumeName? with
  | some volume => Route.claimed volume
  | none => .ok .block

theorem select_claim {callOut : CallOut} (h : callOut.verb ≠ .unmountDevice) :
    Route.claim.select callOut = .ofExcept (claimedBy callOut) := by
  rw [claimedBy]
  cases hname : callOut.volumeName? with
  | some volume =>
    cases callOut with
    | unmountDevice directory => exact absurd rfl h
    | _ => simp only [Route.select, hname]
  | none =>
    cases callOut with
    | unmountDevice directory => exact absurd rfl h
    | _ => simp only [Route.select, hname, Fallible.ofExcept]

/-- An `unmountDevice` names no volume. -/
theorem verb_ne_of_name {callOut : CallOut} {name : String} (h : callOut.volumeName? = some name) :
    callOut.verb ≠ .unmountDevice := by
  intro hverb
  cases callOut with
  | unmountDevice directory => cases h
  | _ => cases hverb

/-- A call-out for a volume that no driver claims is refused by `Route.claim`. -/
theorem answer_of_unclaimed {timing : Timing} {callOut : CallOut} {fault : DriverFault}
    (h : claimedBy callOut = .error fault) :
    Route.claim.answer timing callOut = .done (.failure fault.message) := by
  have hverb : callOut.verb ≠ .unmountDevice := by
    cases hname : callOut.volumeName? with
    | some name => exact verb_ne_of_name hname
    | none =>
      rw [claimedBy, hname] at h
      cases h
  rw [Route.answer, select_claim hverb, h]
  rfl

section

variable {σ : Type}
  (answer : (action : driverSignature.Action) → σ → driverSignature.Answer action × σ)

theorem runs_select {callOut : CallOut} (s : σ) (h : callOut.verb ≠ .unmountDevice) :
    Fallible.runs answer (Route.claim.select callOut) s = (claimedBy callOut, s) := by
  rw [select_claim h, Fallible.runs_ofExcept]

theorem run_routeAnswer (timing : Timing) (route : Route) (callOut : CallOut) (s : σ) :
    (route.answer timing callOut).run answer s =
      match Fallible.runs answer (route.select callOut) s with
      | (.ok family, s) => ((driverFor timing family).dispatch callOut).run answer s
      | (.error fault, s) => (.failure fault.message, s) := by
  refine (Flow.run_bind answer (route.select callOut).run _ s).trans ?_
  rw [Fallible.runs]
  rcases (route.select callOut).run.run answer s with ⟨fault | family, s'⟩ <;> rfl

/-- A call-out that names a volume is answered under `Route.claim` by the driver that the name belongs
    to. -/
theorem run_claimed (timing : Timing) {callOut : CallOut} {name : String} {family : StorageFamily}
    (hname : callOut.volumeName? = some name) (hfamily : StorageFamily.ofName? name = some family)
    (s : σ) :
    (Route.claim.answer timing callOut).run answer s =
      ((driverFor timing family).dispatch callOut).run answer s := by
  have hclaimed : claimedBy callOut = .ok family := by
    simp only [claimedBy, hname, Route.claimed, hfamily]
  rw [run_routeAnswer, runs_select answer s (verb_ne_of_name hname), hclaimed]

end

end VolumeDriver
