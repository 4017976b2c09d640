import Mathlib.Data.List.Basic
import VolumeDriver.CallOut.Parse
import VolumeDriver.Driver.Basic
set_option autoImplicit false

/-! # The grammar of call-outs

The grammar is one table: what stands in each place after a verb (`Verb.places`). Where no argument begins
with a dash (`Undashed`), `CallOut.parse` accepts exactly what the table allows, and says of everything else
which of the rules it breaks (`ByGrammar`). The number of arguments is judged before any of them is read. -/

namespace VolumeDriver

/-- An argument that cannot be taken for an option: it begins with no dash, so `Kind.ofArgument` finds it
    plain. -/
def Undashed (arg : String) : Prop :=
  arg.toList.head? ≠ some '-'

instance (arg : String) : Decidable (Undashed arg) :=
  inferInstanceAs (Decidable (_ ≠ _))

/-- What stands in a place after a verb: a text taken as it is, or `Options`. -/
inductive Place
  | text
  | options
  deriving DecidableEq, Repr

/-- The places after a `Verb`, from left to right. -/
def Verb.places : Verb → List Place
  | .init => []
  | .getVolumeName => [.options]
  | .attach | .isAttached => [.options, .text]
  | .detach => [.text, .text]
  | .waitForAttach | .mount => [.text, .options]
  | .mountDevice => [.text, .text, .options]
  | .unmountDevice | .unmount => [.text]

@[simp] theorem Verb.arity_eq (v : Verb) : v.arity = v.places.length := by
  cases v <;> rfl

/-- An argument that was read, by the kind of its place. -/
inductive Argument
  | text (value : String)
  | options (value : Options)

/-- Reads arguments, each in its `Place`. -/
def readInPlaces : List Place → List String → Except Options.Fault (List Argument)
  | .text :: places, arg :: args => (.text arg :: ·) <$> readInPlaces places args
  | .options :: places, arg :: args =>
    match Options.parse arg with
    | .error fault => .error fault
    | .ok options => (.options options :: ·) <$> readInPlaces places args
  | _, _ => .ok []

/-- The arguments of a call-out in the order of the command line, which is that of `Verb.places`. -/
def CallOut.arguments : CallOut → List Argument
  | .init => []
  | .getVolumeName options => [.options options]
  | .attach options node | .isAttached options node => [.options options, .text node]
  | .detach volume node => [.text volume, .text node]
  | .waitForAttach device options => [.text device, .options options]
  | .mountDevice directory device options => [.text directory, .text device, .options options]
  | .unmountDevice directory | .unmount directory => [.text directory]
  | .mount directory options => [.text directory, .options options]

/-- What the driver's method for the `Verb` answers, given the arguments in their order; `none` if they are
    not the verb's. -/
def Driver.method? (d : Driver) : Verb → List Argument → Option Answering
  | .init, [] => some d.init
  | .getVolumeName, [.options options] => some (d.getVolumeName options)
  | .attach, [.options options, .text node] => some (d.attach options node)
  | .detach, [.text volume, .text node] => some (d.detach volume node)
  | .waitForAttach, [.text device, .options options] => some (d.waitForAttach device options)
  | .isAttached, [.options options, .text node] => some (d.isAttached options node)
  | .mountDevice, [.text directory, .text device, .options options] =>
    some (d.mountDevice directory device options)
  | .unmountDevice, [.text directory] => some (d.unmountDevice directory)
  | .mount, [.text directory, .options options] => some (d.mount directory options)
  | .unmount, [.text directory] => some (d.unmount directory)
  | _, _ => none

/-- A call-out is answered by the method for its verb: `Driver.dispatch` is `Driver.method?`. -/
theorem Driver.method?_callOut (d : Driver) (c : CallOut) :
    d.method? c.verb c.arguments = some (d.dispatch c) := by
  cases c <;> rfl

/-! ## Verbs -/

namespace Verb

@[simp] theorem ofName?_name (v : Verb) : ofName? v.name = some v := by
  cases v <;> decide

theorem ofName?_eq_none {name : String} (h : ∀ v : Verb, v.name ≠ name) : ofName? name = none := by
  rw [ofName?, List.find?_eq_none]
  intro v _
  simpa using h v

end Verb

namespace CallOut

/-! ## Reading -/

/-- What is `Undashed` is no option for `Kind.ofArgument`. -/
theorem Kind.ofArgument_undashed {arg : String} (h : Undashed arg) : Kind.ofArgument arg = .plain := by
  unfold Kind.ofArgument
  unfold Undashed at h
  split <;> simp_all

/-- As many `Undashed` arguments as are wanted are the values; any other number of them is wrong. -/
theorem readArguments_undashed (count : Nat) {args : List String} (h : ∀ arg ∈ args, Undashed arg) :
    readArguments true count args = if args.length = count then .values args else .wrongCount := by
  induction args generalizing count with
  | nil => cases count <;> simp [readArguments]
  | cons arg args ih =>
    have hplain := Kind.ofArgument_undashed (h arg List.mem_cons_self)
    have hrest := fun count => ih count fun a ha => h a (List.mem_cons_of_mem _ ha)
    cases count with
    | zero => simp [readArguments, hplain]
    | succ count =>
      simp only [readArguments, hplain, hrest, List.length_cons, Nat.add_right_cancel_iff]
      by_cases hlength : args.length = count <;> simp [hlength]

/-- As many values as the verb has `places` make a call-out of that verb, or the fault of its options. -/
theorem ofArguments?_of_length {v : Verb} {values : List String}
    (hlength : values.length = v.places.length) :
    ∃ result, ofArguments? v values = some result ∧
      (fun c => (c.verb, c.arguments)) <$> result = (v, ·) <$> readInPlaces v.places values := by
  cases v with
  | init =>
    obtain rfl := List.length_eq_zero_iff.1 hlength
    exact ⟨_, rfl, rfl⟩
  | getVolumeName =>
    obtain ⟨raw, rfl⟩ := List.length_eq_one_iff.1 hlength
    refine ⟨_, rfl, ?_⟩
    cases hraw : Options.parse raw <;> simp [Verb.places, readInPlaces, hraw, verb, arguments]
  | unmountDevice | unmount =>
    obtain ⟨directory, rfl⟩ := List.length_eq_one_iff.1 hlength
    exact ⟨_, rfl, rfl⟩
  | detach =>
    obtain ⟨volume, node, rfl⟩ := List.length_eq_two.1 hlength
    exact ⟨_, rfl, rfl⟩
  | attach | isAttached =>
    obtain ⟨raw, node, rfl⟩ := List.length_eq_two.1 hlength
    refine ⟨_, rfl, ?_⟩
    cases hraw : Options.parse raw <;> simp [Verb.places, readInPlaces, hraw, verb, arguments]
  | waitForAttach | mount =>
    obtain ⟨device, raw, rfl⟩ := List.length_eq_two.1 hlength
    refine ⟨_, rfl, ?_⟩
    cases hraw : Options.parse raw <;> simp [Verb.places, readInPlaces, hraw, verb, arguments]
  | mountDevice =>
    obtain ⟨directory, device, raw, rfl⟩ := List.length_eq_three.1 hlength
    refine ⟨_, rfl, ?_⟩
    cases hraw : Options.parse raw <;> simp [Verb.places, readInPlaces, hraw, verb, arguments]

/-- What the grammar says of the arguments of the process, the program's name first: they come to
    `result`. -/
structure ByGrammar (args : List String) (result : Except Fault CallOut) : Prop where
  /-- there is no verb -/
  missing : args.length < 2 → result = .error .missingVerb
  /-- what stands for the verb is the name of none -/
  unknown : ∀ program name rest, args = program :: name :: rest → (∀ v : Verb, v.name ≠ name) →
    result = .error (.unknownVerb args)
  /-- the arguments are more or fewer than the places, whatever they are -/
  arity : ∀ program (v : Verb) rest, args = program :: v.name :: rest → rest.length ≠ v.places.length →
    result = .error (.arity v (v.places.length + 2) args)
  /-- what stands in the place of options is none -/
  options : ∀ program (v : Verb) rest fault, args = program :: v.name :: rest →
    rest.length = v.places.length → readInPlaces v.places rest = .error fault →
    result = .error (.options fault)
  /-- everything is in its place -/
  callOut : ∀ program (v : Verb) rest values, args = program :: v.name :: rest →
    rest.length = v.places.length → readInPlaces v.places rest = .ok values →
    ∃ c, result = .ok c ∧ c.verb = v ∧ c.arguments = values ∧
      ∀ d : Driver, d.method? v values = some (d.dispatch c)

/-- Of a known verb with nothing that begins with a dash after it, the number of arguments decides first for
    `CallOut.parse`, and then what its options are. -/
theorem parse_verb (program : String) (v : Verb) {rest : List String} (h : ∀ arg ∈ rest, Undashed arg) :
    parse (program :: v.name :: rest) =
      if rest.length = v.places.length then
        match ofArguments? v rest with
        | none => .error (.arity v (v.places.length + 2) (program :: v.name :: rest))
        | some result => result.mapError .options
      else .error (.arity v (v.places.length + 2) (program :: v.name :: rest)) := by
  simp only [parse, Verb.ofName?_name, parseVerb, readArguments_undashed _ h, Verb.arity_eq]
  by_cases hlength : rest.length = v.places.length
  · simp only [if_pos hlength]
    cases ofArguments? v rest with
    | none => rfl
    | some result => cases result <;> rfl
  · simp only [if_neg hlength]

/-- **Where no argument begins with a dash, `CallOut.parse` goes by the grammar** (`ByGrammar`). -/
theorem parse_byGrammar {args : List String} (h : ∀ arg ∈ args.tail, Undashed arg) :
    ByGrammar args (parse args) where
  missing hlength := by
    match args, hlength with
    | [], _ | [_], _ => rfl
  unknown := by
    rintro program name rest rfl hname
    have hplain := Kind.ofArgument_undashed (h name List.mem_cons_self)
    simp only [parse, Verb.ofName?_eq_none hname, hplain]
  arity := by
    rintro program v rest rfl hlength
    rw [parse_verb program v fun arg ha => h arg (List.mem_cons_of_mem _ ha), if_neg hlength]
  options := by
    rintro program v rest fault rfl hlength hread
    obtain ⟨result, hresult, hparts⟩ := ofArguments?_of_length hlength
    rw [parse_verb program v fun arg ha => h arg (List.mem_cons_of_mem _ ha), if_pos hlength, hresult]
    rw [hread] at hparts
    cases result with
    | error fault' => cases hparts; rfl
    | ok c => cases hparts
  callOut := by
    rintro program v rest values rfl hlength hread
    obtain ⟨result, hresult, hparts⟩ := ofArguments?_of_length hlength
    rw [parse_verb program v fun arg ha => h arg (List.mem_cons_of_mem _ ha), if_pos hlength, hresult]
    rw [hread] at hparts
    cases result with
    | error fault => cases hparts
    | ok c =>
      cases hparts
      exact ⟨c, rfl, rfl, rfl, fun d => d.method?_callOut c⟩

/-- A device may be empty for `CallOut.parse`; what is wrong with options is not looked for among too many
    arguments. -/
theorem parse_byGrammar_mountDevice :
    (∃ c, parse ["oci", "mountdevice", "/global/pv", "", "\x7b\x7d"] = .ok c ∧ c.verb = .mountDevice ∧
      c.arguments = [.text "/global/pv", .text "", .options .empty] ∧
      ∀ d : Driver, d.method? .mountDevice [.text "/global/pv", .text "", .options .empty] =
        some (d.dispatch c)) ∧
    parse ["oci", "mountdevice", "/global/pv", "", "\x7b", "more"] =
      .error (.arity .mountDevice 5 ["oci", "mountdevice", "/global/pv", "", "\x7b", "more"]) :=
  ⟨(parse_byGrammar (by decide)).callOut "oci" .mountDevice _ _ rfl rfl (by cbv),
    (parse_byGrammar (by decide)).arity "oci" .mountDevice _ rfl (by decide)⟩

end CallOut

end VolumeDriver
