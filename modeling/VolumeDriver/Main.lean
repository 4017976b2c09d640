import VolumeDriver.CommandLine
import VolumeDriver.Http.Exchange
import VolumeDriver.Http.InstanceService
import VolumeDriver.Http.Reach
import VolumeDriver.Linux.Host
set_option autoImplicit false

/-! # The program on a real machine

Here the actions of a flow are carried out, by `act`. Files, the environment and the mount table are those
of the machine; other programs and the network are out of reach, which every action that needs them reports. -/

namespace VolumeDriver.Main

/-! ## Files -/

/-- The fault with a code of the system. -/
def faultOfCode (code : UInt32) (details : String) : Files.Fault :=
  if code = 2 then .notFound
  else if code = 13 then .notPermitted
  else if code = 20 then .notDirectory
  else if code = 21 then .isDirectory
  else if code = 22 then .invalidArgument
  else if code = 36 then .nameTooLong
  else .other (details ++ " (os error " ++ toString code.toNat ++ ")")

/-- The `Files.Fault` that the system reports. -/
def faultOf : IO.Error → Files.Fault
  | .noFileOrDirectory _ _ _ => .notFound
  | .inappropriateType _ code details | .permissionDenied _ code details
  | .invalidArgument _ code details | .resourceExhausted _ code details
  | .noSuchThing _ code details | .alreadyExists _ code details
  | .interrupted _ code details | .otherError code details | .resourceBusy code details
  | .unsupportedOperation code details => faultOfCode code details
  | error => .other error.toString

/-- An action on files, with the `Files.Fault` that the system reports. -/
def attempt {α : Type} (action : IO α) : BaseIO (Except Files.Fault α) := do
  match ← action.toBaseIO with
  | .ok a => return .ok a
  | .error error => return .error (faultOf error)

/-- The content of a file. -/
def contentOf (path : String) : BaseIO (Except Files.Fault (List UInt8)) :=
  attempt do return (← IO.FS.readBinFile path).toList

/-- Opens something to read. -/
def openToRead (path : String) : BaseIO (Except Files.Fault IO.FS.Handle) :=
  attempt (IO.FS.Handle.mk path .read)

/-- Opens a directory, which is what cannot be read as a file. -/
def openDirectory (path : String) : BaseIO (Except Files.Fault Unit) := do
  match ← openToRead path with
  | .error fault => return .error fault
  | .ok handle =>
    match ← attempt (handle.read 1) with
    | .error .isDirectory => return .ok ()
    | .error fault => return .error fault
    | .ok _ => return .error .notDirectory

/-- Whether there is anything at a path. -/
def isThere (path : String) : BaseIO (Except Files.Fault Bool) := do
  match ← openToRead path with
  | .ok _ => return .ok true
  | .error .notFound => return .ok false
  | .error fault => return .error fault

/-- The path without links that leads to the same place. -/
def canonical (path : String) : BaseIO (Option String) := do
  match ← attempt (IO.FS.realPath path) with
  | .ok place => return some place.toString
  | .error _ => return none

/-- The names in a directory. -/
def namesIn (directory : String) : BaseIO (Except Files.Fault (List String)) :=
  attempt do
    let entries ← (← IO.FS.realPath directory).readDir
    return entries.toList.map (·.fileName)

/-! ## Actions -/

/-- What every request comes to, through a proxy if there is one. -/
def send (proxy : Option Http.Url) (r : Http.Request) : Except Http.Unanswered Http.Response :=
  match r.url with
  | .ok url => .error (.noConnection url (Http.noWayTo (proxy.getD url)))
  | .error reason => .error reason

/-- What the instance says of itself. -/
def metadata : Except Metadata.Fault Metadata :=
  let request := Http.InstanceService.request Http.InstanceService.standardAddress
  match request.url with
  | .ok url => Http.InstanceService.answerOf url (send none request)
  | .error reason => .error (.request reason.message)

/-- Carries out a `Config.Action`. -/
def load : (a : Config.Action) → BaseIO a.Answer
  | .openDirectory path => openDirectory path
  | .isThere directory name => isThere (Path.join directory name)
  | .read directory name => contentOf (Path.join directory name)
  | .fetchMetadata => pure metadata

/-- Opens the file of a cache, which is made if it is not there. -/
def openCache (path : String) : BaseIO (Except String (List UInt8)) := do
  match ← attempt (IO.FS.Handle.mk path .append) with
  | .error fault => return .error fault.message
  | .ok _ => return (← contentOf path).mapError Files.Fault.message

/-- Replaces the content of the file of a cache. -/
def saveCache (path content : String) : BaseIO (Except String Unit) := do
  return (← attempt (IO.FS.writeBinFile path content.toUTF8)).mapError Files.Fault.message

/-- Carries out a `Controller.Action`. -/
def control (env : Environment) (workingDirectory : String) (settings : IO.Ref (Option Http.Settings)) :
    (a : Controller.Action) → BaseIO a.Answer
  | .connect => do
    match ← (Http.connect env workingDirectory).run.interpret load with
    | .error fault => return .error fault
    | .ok (session, chosen) =>
      settings.set (some chosen)
      return .ok session
  | .exchange e => do
    match ← settings.get with
    | some chosen => return Http.answerOf e (send chosen.proxy (Http.requestOf chosen.endpoints e))
    | none => return .error (.unanswered e.operation Http.noRoute)
  | .pause milliseconds => IO.sleep milliseconds.toUInt32
  | .openCache path => openCache path
  | .saveCache path content => saveCache path content

/-- Why `Linux.Action.run` runs no other program here. -/
def noPrograms : String := "other programs are out of reach"

/-- Carries out a `Linux.Action`. -/
def system : (a : Linux.Action) → BaseIO a.Answer
  | .run command => return .error (.spawn command.program noPrograms)
  | .exists path => return (← isThere path).mapError Files.Fault.message
  | .canonical path => canonical path
  | .mountTable => do
    return ((← contentOf Linux.mountTablePath).map Utf8.toTextLossy).mapError Files.Fault.message
  | .names directory => do
    match ← namesIn directory with
    | .ok names => return .ok (some names)
    | .error .notFound => return .ok none
    | .error fault => return .error fault.message

/-- Carries out a `Host.Action`, by the flow on Linux that `Linux.perform` gives for an operation. -/
def serve : (a : Host.Action) → BaseIO a.Answer
  | .operate o => (Linux.perform o).run.interpret system
  | .pause milliseconds => IO.sleep milliseconds.toUInt32

/-- Carries out an action of either side, by `control` or `serve`. -/
def act (env : Environment) (workingDirectory : String) (settings : IO.Ref (Option Http.Settings)) :
    (a : driverSignature.Action) → BaseIO (driverSignature.Answer a)
  | .inl a => control env workingDirectory settings a
  | .inr a => serve a

/-- The environment of the process, as far as the program looks at it. -/
def environment : BaseIO Environment := do
  let mut values : List (String × String) := []
  for name in CommandLine.variableNames do
    if let some value ← IO.getEnv name then
      values := (name, value) :: values
  return fun name => values.lookup name

/-- Runs the program (`CommandLine.run`), which keeps a log where it can. -/
def answer (args : List String) : IO Status := do
  let env ← environment
  let workingDirectory := (← IO.getEnv "PWD").getD "/"
  let _ ← attempt (IO.FS.Handle.mk (DriverPaths.ofEnvironment env).logFile .append)
  let program := (← IO.appPath).toString
  let settings ← IO.mkRef none
  let flow := CommandLine.run (program :: args)
  let status : BaseIO Status := flow.interpret (act env workingDirectory settings)
  status

end VolumeDriver.Main

/-- Answers the call-out in the arguments and exits with the `Status.exitCode`. -/
def main (args : List String) : IO UInt32 := do
  let status ← VolumeDriver.Main.answer args
  IO.print (VolumeDriver.CommandLine.output status)
  return status.exitCode.toUInt32
