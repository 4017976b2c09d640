import VolumeDriver.CallOut.Help
import VolumeDriver.Options
set_option autoImplicit false

/-! # Reading a call-out

`CallOut` is one verb with its arguments. `CallOut.parse` reads the arguments of the process, the
program's name first. `--` ends the options; before it an argument that begins with a dash, a lone dash
excepted, is an option. The only option is `-h` or `--help`, which wins over every fault to the right of
it. The number of arguments is checked before any of them is looked into. -/

namespace VolumeDriver

/-- A `Verb` with its arguments. -/
inductive CallOut
  | init
  | getVolumeName (options : Options)
  | attach (options : Options) (node : String)
  | detach (volume node : String)
  | waitForAttach (device : String) (options : Options)
  | isAttached (options : Options) (node : String)
  | mountDevice (directory device : String) (options : Options)
  | unmountDevice (directory : String)
  | mount (directory : String) (options : Options)
  | unmount (directory : String)

namespace CallOut

/-- The `Verb` of a call-out. -/
def verb : CallOut → Verb
  | init => .init
  | getVolumeName _ => .getVolumeName
  | attach _ _ => .attach
  | detach _ _ => .detach
  | waitForAttach _ _ => .waitForAttach
  | isAttached _ _ => .isAttached
  | mountDevice _ _ _ => .mountDevice
  | unmountDevice _ => .unmountDevice
  | mount _ _ => .mount
  | unmount _ => .unmount

/-- The volume that a call-out names, by itself or in its `Options`. -/
def volumeName? : CallOut → Option String
  | detach volume _ => some volume
  | getVolumeName options | attach options _ | waitForAttach _ options | isAttached options _
  | mountDevice _ _ options | mount _ options => options.volumeName?
  | init | unmountDevice _ | unmount _ => none

/-- Why `CallOut.parse` refuses the arguments. -/
inductive Fault
  | missingVerb
  /-- `expected` counts the program's name and the verb -/
  | arity (verb : Verb) (expected : Nat) (args : List String)
  | unknownVerb (args : List String)
  | options (fault : Options.Fault)
  /-- help was asked for -/
  | usage (text : String)
  deriving DecidableEq, Repr

/-- The `CallOut.Fault` in words. -/
def Fault.message : Fault → String
  | .missingVerb => "Expected at least one argument"
  | .arity verb expected args =>
    verb.name ++ " expected exactly " ++ toString expected ++ " arguments; got " ++
      Quoted.quoteAll args
  | .unknownVerb args => "Invalid command; got " ++ Quoted.quoteAll args
  | .options fault => fault.message
  | .usage text => text

/-! ## Options before and among the arguments -/

/-- What an argument is while options may still come. -/
inductive Kind
  | plain
  /-- `--`, after which every argument is plain -/
  | endOfOptions
  | help
  | unknownOption
  deriving DecidableEq, Repr

/-- Short options may be written together, so help is asked for by any that begin with `h`. -/
def Kind.ofArgument (arg : String) : Kind :=
  match arg.toList with
  | ['-', '-'] => .endOfOptions
  | '-' :: '-' :: name => if name = ['h', 'e', 'l', 'p'] then .help else .unknownOption
  | '-' :: 'h' :: _ => .help
  | '-' :: _ :: _ => .unknownOption
  | _ => .plain

/-- How reading a verb's arguments ends. -/
inductive Reading
  | values (values : List String)
  | help
  | wrongCount
  deriving DecidableEq, Repr

/-- Reads the arguments after a verb that takes `count` more of them. While `optionsOpen`, an argument
    that begins with a dash is an option. -/
def readArguments (optionsOpen : Bool) : (count : Nat) → List String → Reading
  | 0, [] => .values []
  | _ + 1, [] => .wrongCount
  | count, arg :: args =>
    match optionsOpen, Kind.ofArgument arg with
    | true, .endOfOptions => readArguments false count args
    | true, .help => .help
    | true, .unknownOption => .wrongCount
    | _, _ =>
      match count with
      | 0 => .wrongCount
      | count + 1 =>
        match readArguments optionsOpen count args with
        | .values values => .values (arg :: values)
        | .help => .help
        | .wrongCount => .wrongCount

/-! ## The call-out -/

/-- The call-out of a verb with as many arguments as `Verb.arity` says; `none` with another number. -/
def ofArguments? : Verb → List String → Option (Except Options.Fault CallOut)
  | .init, [] => some (.ok .init)
  | .getVolumeName, [options] => some (getVolumeName <$> Options.parse options)
  | .attach, [options, node] => some ((attach · node) <$> Options.parse options)
  | .detach, [volume, node] => some (.ok (.detach volume node))
  | .waitForAttach, [device, options] => some (waitForAttach device <$> Options.parse options)
  | .isAttached, [options, node] => some ((isAttached · node) <$> Options.parse options)
  | .mountDevice, [directory, device, options] =>
    some (mountDevice directory device <$> Options.parse options)
  | .unmountDevice, [directory] => some (.ok (.unmountDevice directory))
  | .mount, [directory, options] => some (mount directory <$> Options.parse options)
  | .unmount, [directory] => some (.ok (.unmount directory))
  | _, _ => none

/-- Reads the arguments of a `Verb`. -/
def parseVerb (v : Verb) (all args : List String) : Except Fault CallOut :=
  let wrongCount : Fault := .arity v (v.arity + 2) all
  match readArguments true v.arity args with
  | .help => .error (.usage (Help.verb all v))
  | .wrongCount => .error wrongCount
  | .values values =>
    match ofArguments? v values with
    | none => .error wrongCount
    | some (.error fault) => .error (.options fault)
    | some (.ok callOut) => .ok callOut

/-- Reads the arguments of the process, the program's name first. Before the verb only help may be
    asked for; `--` there leaves nothing for a verb to stand in. -/
def parse (args : List String) : Except Fault CallOut :=
  match args with
  | [] | [_] => .error .missingVerb
  | _ :: first :: rest =>
    match Verb.ofName? first with
    | some v => parseVerb v args rest
    | none =>
      match Kind.ofArgument first with
      | .help => .error (.usage (Help.program args))
      | .endOfOptions =>
        if rest.isEmpty then .error (.usage (Help.program args)) else .error (.unknownVerb args)
      | .plain | .unknownOption => .error (.unknownVerb args)

end CallOut

end VolumeDriver
