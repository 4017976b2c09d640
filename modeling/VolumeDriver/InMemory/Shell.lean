import VolumeDriver.InMemory.Printf
set_option autoImplicit false

/-! # A shell in memory

`Shell.run` runs a script of simple commands: `echo`, `printf`, `true`, `false`, `exit` and `kill`, one
after the other or depending on how the one before ended, with their output where it is sent. Words may
be quoted and may name the shell's process, the code of the last command, and the script's arguments. -/

namespace VolumeDriver.InMemory.Shell

/-! ## Words -/

/-- A piece of a word. -/
inductive Piece
  | text (c : Char)
  /-- the number of the shell's process -/
  | process
  /-- the code of the last command -/
  | code
  | argument (n : Nat)
  deriving DecidableEq, Repr

/-- A word, `Piece` by `Piece`. -/
abbrev Word : Type := List Piece

/-- What a script is made of. -/
inductive Token
  | word (w : Word)
  /-- ends a command; the next one is run anyway, if this one succeeded, or if it failed -/
  | next
  | whenGood
  | whenBad
  /-- sends one stream where another one goes -/
  | join (stream target : Nat)
  /-- sends a stream to the file that the next word names -/
  | redirect (stream : Nat)
  deriving DecidableEq, Repr

/-- The quotes that a character can be in. -/
inductive Quotes
  | none
  | single
  | double
  deriving DecidableEq, Repr

/-- The tokens with a word before them, if there is one. -/
def after (word : Option Word) (tokens : List Token) : List Token :=
  match word with
  | some w => .word w :: tokens
  | none => tokens

/-- The stream that a word before `>` names, and whether it does. -/
def streamOf (word : Option Word) : Nat × Bool :=
  match word with
  | some [.text '1'] => (1, true)
  | some [.text '2'] => (2, true)
  | _ => (1, false)

/-- The piece that a dollar sign stands for with the character after it. -/
def dollar? (c : Char) : Option Piece :=
  if c = '$' then some .process
  else if c = '?' then some .code
  else (Numeral.digit? c).map .argument

/-- A word with one more piece. -/
def extend (word : Option Word) (p : Piece) : Option Word :=
  some (word.getD [] ++ [p])

/-- The `Token`s of a script, from the middle of a word or between words. -/
def scan (quotes : Quotes) (word : Option Word) : List Char → List Token
  | [] => after word []
  | c :: s =>
    match quotes with
    | .single => if c = '\'' then scan .none word s else scan .single (extend word (.text c)) s
    | .double =>
      if c = '"' then scan .none word s
      else
        match c, s with
        | '\\', d :: rest =>
          if ['$', '"', '\\', Char.ofNat 0x60].contains d then
            scan .double (extend word (.text d)) rest
          else scan .double (extend (extend word (.text c)) (.text d)) rest
        | '$', d :: rest =>
          match dollar? d with
          | some p => scan .double (extend word p) rest
          | none => scan .double (extend (extend word (.text c)) (.text d)) rest
        | _, s => scan .double (extend word (.text c)) s
    | .none =>
      match c, s with
      | '\'', s => scan .single (some (word.getD [])) s
      | '"', s => scan .double (some (word.getD [])) s
      | '\\', d :: rest => scan .none (extend word (.text d)) rest
      | '$', d :: rest =>
        match dollar? d with
        | some p => scan .none (extend word p) rest
        | none => scan .none (extend (extend word (.text c)) (.text d)) rest
      | '&', '&' :: rest => after word (.whenGood :: scan .none none rest)
      | '|', '|' :: rest => after word (.whenBad :: scan .none none rest)
      | ';', s | '\n', s => after word (.next :: scan .none none s)
      | ' ', s | '\t', s => after word (scan .none none s)
      | '>', s =>
        let (stream, named) := streamOf word
        let before := if named then none else word
        match s with
        | '&' :: '1' :: rest => after before (.join stream 1 :: scan .none none rest)
        | '&' :: '2' :: rest => after before (.join stream 2 :: scan .none none rest)
        | s => after before (.redirect stream :: scan .none none s)
      | c, s => scan .none (extend word (.text c)) s

/-! ## Commands -/

/-- Where a stream goes. -/
inductive Sink
  | output
  | errors
  | nowhere
  deriving DecidableEq, Repr

/-- Where the two streams of a command go. -/
structure Streams where
  output : Sink := .output
  errors : Sink := .errors
  deriving DecidableEq, Repr

/-- Where a stream goes. -/
def Streams.sink (s : Streams) (stream : Nat) : Sink :=
  if stream = 2 then s.errors else s.output

/-- The streams with one of them sent elsewhere. -/
def Streams.send (s : Streams) (stream : Nat) (sink : Sink) : Streams :=
  if stream = 2 then { s with errors := sink } else { s with output := sink }

/-- When a command is run. -/
inductive Condition
  | always
  | good
  | bad
  deriving DecidableEq, Repr

/-- A command of a script. -/
structure Simple where
  condition : Condition := .always
  words : List Word := []
  streams : Streams := {}
  deriving DecidableEq, Repr

/-- The commands that some tokens spell, from the middle of one. Files keep nothing. -/
def commands (current : Simple) : List Token → List Simple
  | [] => [current]
  | .word w :: tokens => commands { current with words := current.words ++ [w] } tokens
  | .next :: tokens => current :: commands {} tokens
  | .whenGood :: tokens => current :: commands { condition := .good } tokens
  | .whenBad :: tokens => current :: commands { condition := .bad } tokens
  | .join stream target :: tokens =>
    let streams := current.streams.send stream (current.streams.sink target)
    commands { current with streams } tokens
  | .redirect stream :: .word _ :: tokens =>
    commands { current with streams := current.streams.send stream .nowhere } tokens
  | .redirect _ :: tokens => commands current tokens

/-! ## Running -/

/-- How far a script has come. -/
structure State where
  output : List UInt8 := []
  errors : List UInt8 := []
  /-- the code of the last command -/
  code : Nat := 0
  deriving DecidableEq, Repr

/-- What becomes of the script after a command. -/
inductive Fate
  | goesOn
  | exits
  | killed
  deriving DecidableEq, Repr

/-- What a command prints, its code, and what becomes of the script. -/
structure Result where
  output : List UInt8 := []
  errors : List UInt8 := []
  code : Nat := 0
  fate : Fate := .goesOn
  deriving DecidableEq, Repr

/-- The number of the shell's process. -/
def processId : List UInt8 := Utf8.octets "4242"

/-- The octets of a word. -/
def expand (args : List (List UInt8)) (code : Nat) (w : Word) : List UInt8 :=
  w.flatMap fun
    | .text c => Utf8.encodeChar c
    | .process => processId
    | .code => Utf8.encode (Numeral.decimal code)
    | .argument n => args.getD n []

/-- Some arguments with blanks between them. -/
def joined (args : List (List UInt8)) : List UInt8 :=
  [0x20].intercalate args

/-- What `echo` prints. -/
def echo (args : List (List UInt8)) : List UInt8 :=
  let (args, ending) := if args.head? = some (Utf8.octets "-n") then (args.tail, [])
    else (args, [0x0A])
  let (text, stops) := Printf.unescape (joined args)
  if stops then text else text ++ ending

/-- The signals that do not end a process. -/
def harmless : List String := ["0", "17", "18", "23", "28", "CHLD", "CONT", "URG", "WINCH"]

/-- Whether the arguments of `kill` end the shell. -/
def killsShell (args : List (List UInt8)) : Bool :=
  match args with
  | [target] => target = processId
  | [signal, target] =>
    target = processId && !(harmless.map fun s => Utf8.octets ("-" ++ s)).contains signal
  | _ => false

/-- What the shell says about the first line of a script. -/
def complaint (words : String) : List UInt8 :=
  Utf8.octets ("sh: 1: " ++ words)

/-- Runs a command and gives its `Result`. -/
def perform (code : Nat) (words : List (List UInt8)) : Result :=
  match words with
  | [] => { code }
  | name :: args =>
    match Utf8.toTextLossy name with
    | "echo" => { output := echo args }
    | "printf" =>
      match args with
      | [] => { errors := complaint "printf: usage: printf format [arg ...]\n", code := 2 }
      | format :: args => { output := Printf.format format args }
    | "true" | ":" => {}
    | "false" => { code := 1 }
    | "exit" =>
      match args with
      | [] => { code, fate := .exits }
      | n :: _ =>
        if n.isEmpty || !n.all Printf.isDigit then
          { errors := complaint "exit: Illegal number: " ++ n ++ [0x0A], code := 2, fate := .exits }
        else { code := (Printf.numberOf n).2 % 256, fate := .exits }
    | "kill" => if killsShell args then { fate := .killed } else { code := 1 }
    | other => { errors := complaint (other ++ ": not found\n"), code := 127 }

/-- The state with something printed. -/
def State.print (s : State) (sink : Sink) (text : List UInt8) : State :=
  match sink with
  | .output => { s with output := s.output ++ text }
  | .errors => { s with errors := s.errors ++ text }
  | .nowhere => s

/-- Whether a command is run after one with some code. -/
def Condition.holds (c : Condition) (code : Nat) : Bool :=
  match c with
  | .always => true
  | .good => code = 0
  | .bad => code ≠ 0

/-- Runs some commands. The second result tells whether the shell was killed. -/
def runCommands (args : List (List UInt8)) (s : State) : List Simple → State × Bool
  | [] => (s, false)
  | c :: commands =>
    if c.condition.holds s.code then
      let r := perform s.code (c.words.map (expand args s.code))
      let s := { (s.print c.streams.output r.output).print c.streams.errors r.errors with
        code := r.code }
      match r.fate with
      | .goesOn => runCommands args s commands
      | .exits => (s, false)
      | .killed => (s, true)
    else runCommands args s commands

/-- Runs a script with its arguments, its name first. -/
def run (script : String) (args : List (List UInt8)) : State × Bool :=
  runCommands args {} (commands {} (scan .none none script.toList))

end VolumeDriver.InMemory.Shell
