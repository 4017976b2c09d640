import VolumeDriver.CommandLine
import VolumeDriver.InMemory.CacheFile
import VolumeDriver.InMemory.Machine
import VolumeDriver.InMemory.Network
set_option autoImplicit false

/-! # The place where the program runs, in memory

`Site` is a machine with an environment and a network: what the program finds where it is installed. The
configuration is loaded from the machine's files, and the control plane is reached over the network. -/

namespace VolumeDriver.InMemory

/-- Where the metadata of the instance comes from. -/
inductive MetadataSource
  | known (answer : Except Metadata.Fault Metadata)
  | service (address : String)

/-- A machine where the program runs. -/
structure Site where
  env : Environment
  machine : Machine := {}
  network : Network := {}
  metadata : MetadataSource := .service Http.InstanceService.standardAddress
  /-- how requests are sent, once there is a session -/
  settings : Option Http.Settings := none

namespace Site

/-- The path of the working directory. -/
def workingPath (s : Site) : String :=
  "/" ++ "/".intercalate s.machine.files.workingDirectory

/-- The site with other files. -/
def withFiles (s : Site) (files : Files.Tree) : Site :=
  { s with machine := { s.machine with files } }

/-! ## Loading and connecting -/

/-- Answers a `Config.Action`. -/
def load (a : Config.Action) (s : Site) : a.Answer × Site :=
  match a with
  | .openDirectory path => (s.machine.files.openDirectory path, s)
  | .isThere directory name => (s.machine.files.isThereIn directory name, s)
  | .read directory name => (s.machine.files.readIn directory name, s)
  | .fetchMetadata =>
    match s.metadata with
    | .known answer => (answer, s)
    | .service address =>
      let (answer, network) := s.network.fetchMetadata address
      (answer, { s with network })

/-- What a flow of loading comes to. -/
def loading {α : Type} (s : Site) (m : Config.Run α) : Except Config.Fault α :=
  (Flow.run load m.run s).1

/-- Connects; the `Http.Settings` of the session are kept. -/
def connect (s : Site) : Except ConnectFault Session × Site :=
  match (Http.connect s.env s.workingPath).run.run load s with
  | (.ok (session, settings), s) => (.ok session, { s with settings := some settings })
  | (.error fault, s) => (.error fault, s)

/-! ## Running a driver -/

/-- What is said of an exchange without a session. -/
def noSession : String := "there is no session"

/-- Answers a `Controller.Action`. -/
def control (a : Controller.Action) (s : Site) : a.Answer × Site :=
  match a with
  | .connect => s.connect
  | .exchange e =>
    match s.settings with
    | none => (.error (.unanswered e.operation noSession), s)
    | some settings =>
      let (answer, network) := s.network.exchange settings e
      (answer, { s with network })
  | .pause milliseconds =>
    ((), { s with machine := { s.machine with clock := s.machine.clock + milliseconds } })
  | .openCache path =>
    let (answer, files) := openCacheIn s.machine.files path
    (answer, s.withFiles files)
  | .saveCache path content =>
    let (answer, files) := saveCacheIn s.machine.files path content
    (answer, s.withFiles files)

/-- Answers an action of either side. -/
def act (a : driverSignature.Action) (s : Site) : driverSignature.Answer a × Site :=
  match a with
  | .inl a => s.control a
  | .inr a =>
    let (answer, machine) := s.machine.serve a
    (answer, { s with machine })

/-! ## Running the program -/

/-- Opens the log, which is made if it is not there. Without a log the program runs all the same. -/
def openLog (s : Site) : Site :=
  match s.machine.files.openOrCreate (DriverPaths.ofEnvironment s.env).logFile with
  | .ok (_, files) => s.withFiles files
  | .error _ => s

/-- Runs the program (`CommandLine.run`). -/
def runProgram (args : List (List UInt8)) (s : Site) : Status × Site :=
  (CommandLine.run (CommandLine.textOf args)).run act s.openLog

end Site

end VolumeDriver.InMemory
