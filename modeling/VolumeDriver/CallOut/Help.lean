import VolumeDriver.CallOut.Verb
import VolumeDriver.Files.Path
import VolumeDriver.Text.Blank
import VolumeDriver.Text.Terminal
set_option autoImplicit false

/-! # Help

What is printed for `--help`: what the program or the verb does, how it is called, and a table of the
verbs or of the verb's arguments. The program's name comes from outside, so what a terminal would obey
in the text is left out of it. -/

namespace VolumeDriver.Help

/-- The name of the program when the call does not tell one. -/
def defaultName : String := "oci-flexvolume"

/-- Rows of two columns, two spaces apart and indented by two. -/
def table (rows : List (String × String)) : List String :=
  let width := rows.foldl (fun w row => max w row.1.length) 0
  rows.map fun (left, right) =>
    "  " ++ left ++ String.ofList (List.replicate (width - left.length) ' ') ++ "  " ++ right

/-- The options that every call knows. -/
def options : List String :=
  ["Options:", "  -h, --help  Print help"]

/-- The text of some lines as it is printed. -/
def printed (lines : List String) : String :=
  Blank.trimmed (Terminal.plain ("\n".intercalate lines))

/-- The help on the program, called as the first of `args` says. -/
def program (args : List String) : String :=
  let name := ((args.head?).bind Path.fileName?).getD defaultName
  printed <|
    ["Flexvolume driver for OCI block volumes and file systems", "",
      "Usage: " ++ name ++ " <COMMAND>", "", "Commands:"] ++
    table (Verb.all.map fun v => (v.name, v.summary)) ++ [""] ++ options

/-- The help on a `Verb` of the program, called as the first of `args` says. -/
def verb (args : List String) (v : Verb) : String :=
  let called := match (args.head?).bind Path.fileName? with
    | some name => name ++ " " ++ v.name
    | none => v.name
  let placeholders := v.arguments.map fun (placeholder, meaning) => ("<" ++ placeholder ++ ">", meaning)
  printed <|
    [v.summary, "", "Usage: " ++ " ".intercalate (called :: placeholders.map (·.1)), ""] ++
    (if placeholders.isEmpty then [] else "Arguments:" :: table placeholders ++ [""]) ++ options

end VolumeDriver.Help
