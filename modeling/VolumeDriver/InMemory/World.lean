import VolumeDriver.Driver.Basic
import VolumeDriver.InMemory.CacheFile
import VolumeDriver.InMemory.Cloud
import VolumeDriver.InMemory.Node
set_option autoImplicit false

/-! # A world in memory

`World` is everything a driver acts on: a control plane and the configuration that leads to it, a host,
files, and a clock that only pauses move. A driver's flow can be run against it. -/

namespace VolumeDriver.InMemory

/-- All that a driver acts on. -/
structure World where
  cloud : Cloud := {}
  node : Node := {}
  files : Files.Tree := {}
  /-- the configuration, if there is one -/
  config : Option Config := none
  cachePath : String := VnicCache.fileName
  /-- the milliseconds that have gone by -/
  clock : Nat := 0
  deriving Repr

namespace World

/-- The name of the file that a configuration is looked for in. -/
def configFileName : String := "config.toml"

/-- The `Session` that a driver gets. -/
def session (w : World) : Except ConnectFault Session :=
  match w.config with
  | some config => .ok ⟨config, w.cachePath⟩
  | none => .error (.config (.notFound (Path.withFileName w.cachePath configFileName)))

/-- Answers a `Controller.Action`. -/
def control (a : Controller.Action) (w : World) : a.Answer × World :=
  match a with
  | .connect => (w.session, w)
  | .exchange e =>
    let (answer, cloud) := w.cloud.exchange e
    (answer, { w with cloud })
  | .pause milliseconds => ((), { w with clock := w.clock + milliseconds })
  | .openCache path =>
    let (answer, files) := openCacheIn w.files path
    (answer, { w with files })
  | .saveCache path content =>
    let (answer, files) := saveCacheIn w.files path content
    (answer, { w with files })

/-- Answers a `Host.Action` with the operations of the `node`; a pause moves the clock. -/
def serve (a : Host.Action) (w : World) : a.Answer × World :=
  match a with
  | .operate o =>
    let (answer, node) := w.node.operate o
    (answer, { w with node })
  | .pause milliseconds => ((), { w with clock := w.clock + milliseconds })

/-- Answers an action of either side, by `control` or `serve`. -/
def act (a : driverSignature.Action) (w : World) : driverSignature.Answer a × World :=
  match a with
  | .inl a => w.control a
  | .inr a => w.serve a

end World

end VolumeDriver.InMemory
