import VolumeDriver.Files.Tree
import VolumeDriver.InMemory.Shell
import VolumeDriver.Linux.Command
set_option autoImplicit false

/-! # Programs in memory

The few programs that every system has (`installed`), as they behave when a command is run. What a program
prints need not be text; what is no text in it is replaced. The files of a tree are no programs, so a
command that names one is refused. -/

namespace VolumeDriver.InMemory.Programs

/-- The output of a program that was not killed. -/
def ended (code : Nat) (output errors : List UInt8) : CommandOutput :=
  ⟨some code, Utf8.toTextLossy output, Utf8.toTextLossy errors⟩

/-- What `echo` prints when it is a program of its own, which leaves escapes alone. -/
def echo (args : List (List UInt8)) : List UInt8 :=
  match args with
  | first :: rest =>
    if first = Utf8.octets "-n" then Shell.joined rest else Shell.joined args ++ [0x0A]
  | [] => [0x0A]

/-- What a shell prints that has no script to run. -/
def missingScript : List UInt8 := Utf8.octets "sh: 0: -c requires an argument\n"

/-- What the files with some names hold, one after the other, as `cat` prints it. -/
def concatenate (files : Files.Tree) (names : List String) : CommandOutput :=
  let contents := names.map fun name => (name, files.read name)
  let missing := contents.filterMap fun (name, content) =>
    match content with
    | .ok _ => none
    | .error fault => some (Utf8.octets ("cat: " ++ name ++ ": " ++ fault.words ++ "\n"))
  let output := contents.flatMap fun (_, content) => content.toOption.getD []
  ended (if missing.isEmpty then 0 else 1) output missing.flatten

/-- Runs a shell. Without a script it reads one, which is empty. -/
def shell (args : List String) : CommandOutput :=
  match args with
  | "-c" :: script :: args =>
    let (s, killed) := Shell.run script ((if args = [] then ["sh"] else args).map Utf8.octets)
    let output := ended s.code s.output s.errors
    if killed then { output with code := none } else output
  | ["-c"] => ended 2 [] missingScript
  | _ => ended 0 [] []

/-- The programs, by their names. -/
def installed (files : Files.Tree) : List (String × (List String → CommandOutput)) :=
  [("true", fun _ => ended 0 [] []),
   ("false", fun _ => ended 1 [] []),
   ("cat", concatenate files),
   ("echo", fun args => ended 0 (echo (args.map Utf8.octets)) []),
   ("printf", fun args =>
     match args.map Utf8.octets with
     | [] => ended 1 [] (Utf8.octets "printf: missing operand\n")
     | format :: args => ended 0 (Printf.format format args) []),
   ("sh", shell)]

/-- The directories of programs. -/
def directories : List String := ["/bin/", "/usr/bin/"]

/-- The name of the program that a command asks for. -/
def nameOf (program : String) : Option String :=
  if program.toList.contains '/' then
    directories.findSome? fun d =>
      (Cut.dropPrefix? d.toList program.toList).map String.ofList
  else some program

/-- Why what is not installed cannot be run. A name without slashes is looked for in the directories of
    programs, where `.` and `..` lead to directories. -/
def refusal (files : Files.Tree) (program : String) : Files.Fault :=
  if program.toList.contains '/' then
    match files.find program with
    | .ok _ => .notPermitted
    | .error fault => fault
  else if program = "." ∨ program = ".." then .notPermitted
  else if Files.longestName < program.utf8ByteSize then .nameTooLong
  else .notFound

/-- Runs a command on a machine with some files: the one of the `installed` programs that it names. -/
def run (files : Files.Tree) (c : Command) : Except Host.Fault CommandOutput :=
  if (c.program :: c.args).any fun s => s.toList.contains (Char.ofNat 0) then
    .error (.spawn c.program "nul byte found in provided data")
  else
    match (nameOf c.program).bind fun name => (installed files).lookup name with
    | some program => .ok (program c.args)
    | none => .error (.spawn c.program (refusal files c.program).message)

end VolumeDriver.InMemory.Programs
