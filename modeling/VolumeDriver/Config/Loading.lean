import VolumeDriver.Config.File
import VolumeDriver.Config.Paths
import VolumeDriver.Files.Tree
import VolumeDriver.Flow
set_option autoImplicit false

/-! # Loading the configuration

The first file that is there (`locate`), of those where a configuration may be, is read, completed and
checked. A file is reached through its directory (`splitPath`): a path needs a last name, and a directory
that is not there holds no file. -/

namespace VolumeDriver.Config

/-- What is asked of the system to load a configuration. -/
inductive Action
  | openDirectory (path : String)
  /-- whether there is anything of a name in an open directory -/
  | isThere (directory name : String)
  /-- the content of a file in an open directory -/
  | read (directory name : String)
  | fetchMetadata
  deriving DecidableEq, Repr

/-- What each `Action` brings. -/
def Action.Answer : Action → Type
  | openDirectory _ => Except Files.Fault Unit
  | isThere _ _ => Except Files.Fault Bool
  | read _ _ => Except Files.Fault (List UInt8)
  | fetchMetadata => Except Metadata.Fault Metadata

/-- The actions of loading. -/
def signature : Signature := ⟨Action, Action.Answer⟩

/-- A flow of loading that may fail. -/
abbrev Run (α : Type) : Type := Fallible Fault signature α

/-- The directory of a path and the name in it. -/
def splitPath (path : String) : Except Fault (String × String) :=
  match Path.fileName? path with
  | none => .error (.access path "path is missing a file name")
  | some name =>
    let parent := Path.parent path
    .ok (if parent = "" then "." else parent, name)

/-- An action on a file, with the path for its faults. -/
def onFile {α : Type} (path : String) (m : Flow signature (Except Files.Fault α)) : Run α :=
  Fallible.wrap (fun (fault : Files.Fault) => .access path fault.message) (.ofFlow m)

/-- Whether there is a file at the path, asked of its directory (`splitPath`). -/
def fileIsThere (path : String) : Run Bool := do
  let (directory, name) ← .ofExcept (splitPath path)
  match ← ExceptT.lift (Flow.perform (S := signature) (.openDirectory directory)) with
  | .error .notFound => return false
  | .error fault => throw (.access directory (Files.Fault.message fault))
  | .ok () => onFile path (Flow.perform (S := signature) (.isThere directory name))

/-- The content of the file at the path, read from its directory (`splitPath`). -/
def fileContent (path : String) : Run (List UInt8) := do
  let (directory, name) ← .ofExcept (splitPath path)
  onFile path (Flow.perform (S := signature) (.openDirectory directory))
  onFile path (Flow.perform (S := signature) (.read directory name))

/-- The first of some paths for which `fileIsThere`. -/
def locate : (candidates : List String) → Run (Option String)
  | [] => return none
  | candidate :: candidates => do
    if ← fileIsThere candidate then return some candidate else locate candidates

/-- Loads the configuration, with the path of its file. `expected` is where there should be one. -/
def load (candidates : List String) (expected : String) : Run (String × Config) := do
  match ← locate candidates with
  | none => throw (.notFound expected)
  | some path =>
    let content ← fileContent path
    let config ← .ofExcept (parse path content)
    let (result, config) ←
      ExceptT.lift (applyDefaults (Flow.perform (S := signature) .fetchMetadata) config)
    Fallible.ofExcept result
    Fallible.ofExcept (config.validate path)
    return (path, config)

end VolumeDriver.Config
