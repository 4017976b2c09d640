import VolumeDriver.Controller.VnicCache
import VolumeDriver.Files.Path
set_option autoImplicit false

/-! # Where the driver's files are

Each of the `DriverPaths` can be given by an environment variable. A variable that is blank counts as not
set, and every directory but the first one falls back to it. `candidates` are the paths at which a
configuration is looked for. -/

namespace VolumeDriver

/-- The values of environment variables. -/
abbrev Environment : Type := String → Option String

/-- The value of a variable, unless it is blank. -/
def Environment.nonBlank (env : Environment) (name : String) : Option String :=
  (env name).filter fun value => !Blank.isBlankText value

/-- The directories of the driver. -/
structure DriverPaths where
  /-- the directory that the driver is installed in -/
  driverDirectory : String
  configDirectory : String
  cacheDirectory : String
  logDirectory : String
  deriving DecidableEq, Repr

namespace DriverPaths

/-- Where the driver is installed if nothing else is said. -/
def defaultDirectory : String :=
  "/usr/libexec/kubernetes/kubelet-plugins/volume/exec/oracle~oci"

/-- The variable with the directory that the driver is installed in. -/
def driverVariable : String := "OCI_FLEXD_DRIVER_DIRECTORY"

/-- The variable with the directory of the configuration. -/
def configVariable : String := "OCI_FLEXD_CONFIG_DIRECTORY"

/-- The variable with the directory of the cache. -/
def cacheVariable : String := "OCI_FLEXD_CACHE_DIRECTORY"

/-- The variable with the directory of the log. -/
def logVariable : String := "OCI_FLEXD_DRIVER_LOG_DIR"

/-- The variables with directories. -/
def variableNames : List String := [driverVariable, configVariable, cacheVariable, logVariable]

/-- The `DriverPaths` that the environment gives. -/
def ofEnvironment (env : Environment) : DriverPaths :=
  let driverDirectory := (env.nonBlank driverVariable).getD defaultDirectory
  { driverDirectory
    configDirectory := (env.nonBlank configVariable).getD driverDirectory
    cacheDirectory := (env.nonBlank cacheVariable).getD driverDirectory
    logDirectory := (env.nonBlank logVariable).getD driverDirectory }

/-- The path of the configuration file. -/
def configFile (p : DriverPaths) : String :=
  Path.join p.configDirectory "config.toml"

/-- The path of the cache of network interfaces. -/
def cacheFile (p : DriverPaths) : String :=
  Path.join p.cacheDirectory VnicCache.fileName

/-- The path of the log. -/
def logFile (p : DriverPaths) : String :=
  Path.join p.logDirectory "oci_flexvolume_driver.log"

end DriverPaths

/-! ## Where a configuration may be -/

namespace Config

/-- The paths of a file below some directories that belong to programs. -/
def inProgramDirectory (directory : String) : List String :=
  [Path.join directory "oci-flexvolume/config.toml", Path.join directory ".oci-flexvolume.toml"]

/-- The parts of a list of directories that are not empty. -/
def directoryList (value : String) : List String :=
  ((Cut.splitAll ':' value.toList).filter fun part => !part.isEmpty).map String.ofList

/-- The directories for everyone's configuration. -/
def sharedDirectories (env : Environment) : List String :=
  match directoryList ((env "XDG_CONFIG_DIRS").getD "") with
  | [] => ["/etc/xdg"]
  | directories => directories

/-- The paths below the user's own directory. -/
def inHome (home : String) : List String :=
  inProgramDirectory (Path.join home ".config") ++ [Path.join home ".oci-flexvolume.toml"]

/-- The paths at which a configuration is looked for: the ones asked for, then the usual places. No
    path comes twice. -/
def candidates (env : Environment) (workingDirectory configFile : String)
    (explicit : Option String) : List String :=
  let asked := (explicit.toList ++ [configFile]).filter (· ≠ "")
  let own := (env "XDG_CONFIG_HOME").toList ++ sharedDirectories env ++
    (env "APPDATA").toList ++ (env "LOCALAPPDATA").toList
  let home := ((env "HOME").or (env "USERPROFILE")).toList
  (asked ++ own.flatMap inProgramDirectory ++ home.flatMap inHome ++
    [Path.join workingDirectory ".oci-flexvolume.toml"]).eraseDups

/-- The variable that asks for a configuration. -/
def explicitVariable : String := "OCI_FLEXD_CONFIG_PATH"

/-- The variables that say where a configuration may be. -/
def variableNames : List String :=
  [explicitVariable, "XDG_CONFIG_HOME", "XDG_CONFIG_DIRS", "APPDATA", "LOCALAPPDATA", "HOME",
    "USERPROFILE"]

end Config

end VolumeDriver
