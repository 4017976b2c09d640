import VolumeDriver.Config.Loading
import VolumeDriver.Controller.Action
import VolumeDriver.Http.Certificate
import VolumeDriver.Http.Endpoint
import VolumeDriver.Http.Message
set_option autoImplicit false

/-! # Connecting over HTTP

To `connect` is to load the configuration and to settle how requests are sent, the `Settings`: to which
endpoints, through which proxy, and with which certificates trusted. Nothing is sent yet. -/

namespace VolumeDriver.Http

/-- How requests are sent. -/
structure Settings where
  endpoints : Endpoints
  proxy : Option Url
  deriving DecidableEq, Repr

/-- The variable that names a proxy. -/
def proxyVariable : String := "OCI_PROXY"

/-- The variable with the path of a file of certificates that are trusted too. -/
def certificateVariable : String := "TRUSTED_CA_CERT_PATH"

/-- The operation that faults of connecting are told of. -/
def setupOperation : String := "client setup"

/-- A fault of connecting. -/
def setupFault (message : String) : ConnectFault :=
  .controlPlane (.unanswered setupOperation message)

/-- The URL of a host that a text spells, or what is said of one that spells none, and whether the text
    may still be a host and a port. -/
def readPlace (text : String) : Except (String × Bool) Url :=
  match Url.parse text with
  | .error fault => .error ("builder error: " ++ fault.message, fault = .relative)
  | .ok url => if url.host?.isNone then .error (schemeRefused url, true) else .ok url

/-- The proxy that a text names. -/
def readProxy (text : String) : Except String Url := do
  let url ← match readPlace text with
    | .ok url => pure url
    | .error (reason, mayBeHost) =>
      match mayBeHost, readPlace ("http://" ++ text) with
      | true, .ok url => pure url
      | _, _ => throw ("builder error: " ++ reason)
  if !url.isWeb then throw "builder error: unknown proxy scheme"
  if !url.host?.all Url.isSentHost then throw "builder error: invalid uri character"
  return url

/-- A flow of connecting that may fail. -/
abbrev Connecting (α : Type) : Type := Fallible ConnectFault Config.signature α

/-- A flow of loading as one of connecting. -/
def loading {α : Type} (m : Config.Run α) : Connecting α :=
  Fallible.wrap .config m

/-- Settles with which `Settings` requests are sent under a configuration. The file of certificates is read
    before the proxy is looked at, and its content is looked at last. -/
def settle (env : Environment) (config : Config) : Connecting Settings := do
  let certificates ← match env.nonBlank certificateVariable with
    | some path => some <$> loading (Config.fileContent path)
    | none => pure none
  let proxy ← match env.nonBlank proxyVariable with
    | some text => some <$> Fallible.ofExcept ((readProxy text).mapError setupFault)
    | none => pure none
  if let some content := certificates then
    Fallible.ofExcept ((Certificate.checkFile content).mapError fun f => setupFault f.message)
  return { endpoints := .select config.auth.region config.endpoint, proxy }

/-- Connects: loads the `Config` and settles the `Settings`. -/
def connect (env : Environment) (workingDirectory : String) : Connecting (Session × Settings) := do
  let paths := DriverPaths.ofEnvironment env
  let candidates := Config.candidates env workingDirectory paths.configFile
    (env.nonBlank Config.explicitVariable)
  let (_, config) ← loading (Config.load candidates paths.configFile)
  let settings ← settle env config
  return (⟨config, paths.cacheFile⟩, settings)

end VolumeDriver.Http
