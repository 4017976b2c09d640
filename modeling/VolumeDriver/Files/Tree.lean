import VolumeDriver.Files.Path
import VolumeDriver.Text.Utf8
set_option autoImplicit false

/-! # A tree of files in memory

`Tree` holds files and directories by the names on the way to them. A path is followed name by name:
each step needs a directory to step from, `..` goes back up, and a path that does not begin at the root
begins at the working directory. There are no links. -/

namespace VolumeDriver.Files

/-- Why a path leads nowhere, or to the wrong kind of thing. -/
inductive Fault
  | notFound
  | notPermitted
  | notDirectory
  | isDirectory
  | nameTooLong
  | zeroInName
  | invalidArgument
  /-- anything else, in the words of the system -/
  | other (message : String)
  deriving DecidableEq, Repr

/-- The `Files.Fault` in the words of the system. -/
def Fault.words : Fault → String
  | notFound => "No such file or directory"
  | notPermitted => "Permission denied"
  | notDirectory => "Not a directory"
  | isDirectory => "Is a directory"
  | nameTooLong => "File name too long"
  | zeroInName => "file name contained an unexpected NUL byte"
  | invalidArgument => "Invalid argument"
  | other message => message

/-- The number that the system has for the `Files.Fault`. -/
def Fault.number? : Fault → Option Nat
  | notFound => some 2
  | notPermitted => some 13
  | notDirectory => some 20
  | isDirectory => some 21
  | invalidArgument => some 22
  | nameTooLong => some 36
  | zeroInName | other _ => none

/-- The `Files.Fault` in the words of the system (`words`) and with its number (`number?`). -/
def Fault.message (f : Fault) : String :=
  match f.number? with
  | some n => f.words ++ " (os error " ++ toString n ++ ")"
  | none => f.words

/-- What a path of a `Tree` leads to. -/
inductive Entry
  | file (content : List UInt8)
  | directory
  deriving DecidableEq, Repr

/-- What can be read of it. -/
def Entry.content : Entry → Except Fault (List UInt8)
  | file content => .ok content
  | directory => .error .isDirectory

/-- The names on the way from the root. -/
abbrev Location : Type := List String

/-- Files and directories. -/
structure Tree where
  entries : List (Location × Entry) := []
  workingDirectory : Location := []
  deriving Repr

/-- The number of octets that a name may have. -/
def longestName : Nat := 255

/-- The number of octets that a path may have. -/
def longestPath : Nat := 4095

namespace Tree

/-- What is at a place. The root is always there. -/
def entryAt? (t : Tree) (location : Location) : Option Entry :=
  match location with
  | [] => some .directory
  | _ => t.entries.lookup location

/-- Puts a file or directory at a place, in place of what was there. -/
def put (t : Tree) (location : Location) (entry : Entry) : Tree :=
  { t with entries := t.entries.filter (fun e => e.1 ≠ location) ++ [(location, entry)] }

/-- Puts a file or directory at a place and makes the directories above it. -/
def plant (t : Tree) (location : Location) (entry : Entry) : Tree :=
  let above := (List.range location.length).map fun n => location.take n
  (above.foldl (fun t l => if (t.entryAt? l).isSome then t else t.put l .directory) t).put
    location entry

/-- Where one more name leads from a place. -/
def step (t : Tree) (location : Location) (name : String) : Except Fault Location :=
  match t.entryAt? location with
  | none => .error .notFound
  | some (.file _) => .error .notDirectory
  | some .directory =>
    if name = "" ∨ name = "." then .ok location
    else if name = ".." then .ok location.dropLast
    else if longestName < name.utf8ByteSize then .error .nameTooLong
    else .ok (location ++ [name])

/-- Whether a text has the null character in it. -/
def hasZero (s : String) : Bool :=
  s.toList.contains (Char.ofNat 0)

/-- Where the names of a path lead, `step` by `step`. -/
def follow (t : Tree) (path : String) (names : List (List Char)) : Except Fault Location :=
  if hasZero path then .error .zeroInName
  else if path = "" then .error .notFound
  else if longestPath < path.utf8ByteSize then .error .nameTooLong
  else
    let start := if Path.isAbsolute path then [] else t.workingDirectory
    (names.map String.ofList).foldlM t.step start

/-- Where a path leads, by `follow`; there need not be anything. -/
def locate (t : Tree) (path : String) : Except Fault Location :=
  t.follow path (Cut.splitAll '/' path.toList)

/-- What is at a place where there has to be something. -/
def present (t : Tree) (location : Location) : Except Fault Entry :=
  match t.entryAt? location with
  | some entry => .ok entry
  | none => .error .notFound

/-- What is at the end of a path, where there has to be something (`present`). -/
def find (t : Tree) (path : String) : Except Fault Entry := do
  t.present (← t.locate path)

/-- Whether something was found. -/
def wasFound (found : Except Fault Entry) : Except Fault Bool :=
  match found with
  | .ok _ => .ok true
  | .error .notFound => .ok false
  | .error fault => .error fault

/-- Whether there is anything at the end of a path. -/
def isThere (t : Tree) (path : String) : Except Fault Bool :=
  wasFound (t.find path)

/-- The content of a file. -/
def read (t : Tree) (path : String) : Except Fault (List UInt8) := do
  (← t.find path).content

/-- Opens a directory. -/
def openDirectory (t : Tree) (path : String) : Except Fault Unit := do
  match ← t.find path with
  | .file _ => throw .notDirectory
  | .directory => return ()

/-- What a name leads to from an open directory. The name is not part of the directory's path, so it does
    not count towards that path's length. -/
def findIn (t : Tree) (directory name : String) : Except Fault Entry := do
  t.openDirectory directory
  if hasZero name then throw .invalidArgument
  t.present (← t.step (← t.locate directory) name)

/-- Whether there is anything of a name in a directory. -/
def isThereIn (t : Tree) (directory name : String) : Except Fault Bool :=
  wasFound (t.findIn directory name)

/-- The content of a file in a directory. -/
def readIn (t : Tree) (directory name : String) : Except Fault (List UInt8) := do
  (← t.findIn directory name).content

/-- The names in a directory. -/
def names (t : Tree) (path : String) : Except Fault (List String) := do
  t.openDirectory path
  let location ← t.locate path
  return t.entries.filterMap fun e =>
    if e.1.dropLast = location ∧ e.1 ≠ [] then e.1.getLast? else none

/-- The pieces of a path before its last name, if slashes follow that name: only a directory can be
    meant by it. -/
def aboveSlashed? (path : String) : Option (List (List Char)) :=
  match (Cut.splitAll '/' path.toList).reverse with
  | [] :: rest =>
    match rest.dropWhile (· = []) with
    | name :: above => if name = ['.'] ∨ name = ['.', '.'] then none else some above.reverse
    | [] => none
  | _ => none

/-- The content of a file, which is made if it is not there. A path that can only mean a directory is
    refused before its last name is looked up. -/
def openOrCreate (t : Tree) (path : String) : Except Fault (List UInt8 × Tree) := do
  match aboveSlashed? path with
  | some above =>
    let _ ← t.follow path (above ++ [[]])
    throw .isDirectory
  | none =>
    let location ← t.locate path
    match t.entryAt? location with
    | some entry => return (← entry.content, t)
    | none =>
      match t.entryAt? location.dropLast with
      | some .directory => return ([], t.put location (.file []))
      | some (.file _) => throw .notDirectory
      | none => throw .notFound

/-- Replaces the content of a file, which is made if it is not there. -/
def write (t : Tree) (path : String) (content : List UInt8) : Except Fault Tree := do
  let (_, t) ← t.openOrCreate path
  return t.put (← t.locate path) (.file content)

/-- The path from the root to what a path leads to. -/
def canonical? (t : Tree) (path : String) : Option String :=
  match t.locate path with
  | .error _ => none
  | .ok location =>
    if (t.entryAt? location).isSome then some ("/" ++ "/".intercalate location) else none

/-- The paths of all files below the working directory, from there and in order. -/
def belowWorkingDirectory (t : Tree) : List String :=
  let below := t.entries.filterMap fun (location, entry) =>
    match entry with
    | .file _ =>
      if t.workingDirectory.isPrefixOf location then
        some ("/".intercalate (location.drop t.workingDirectory.length))
      else none
    | .directory => none
  below.mergeSort fun a b => decide (a ≤ b)

end Tree

end VolumeDriver.Files
