import VolumeDriver.Text.Cut
set_option autoImplicit false

/-! # Where the control plane is

The control plane has an interface for computing and networks and another one for file storage, each with a
version of its own; their URLs begin with its `Endpoints`. Every region has hosts for both; a configuration
can name another place, which then stands for both. -/

namespace VolumeDriver.Http

/-- What the URLs of each interface begin with. -/
structure Endpoints where
  /-- computing and networks -/
  core : String
  fileStorage : String
  deriving DecidableEq, Repr

namespace Endpoints

/-- The version of the interface for computing and networks. -/
def coreVersion : String := "20160918"

/-- The version of the interface for file storage. -/
def fileStorageVersion : String := "20171215"

/-- The host of a service in a region. -/
def regionalHost (service region : String) : String :=
  "https://" ++ service ++ "." ++ region ++ ".oraclecloud.com/"

/-- The `Endpoints` of a region. -/
def ofRegion (region : String) : Endpoints :=
  ⟨regionalHost "iaas" region ++ coreVersion, regionalHost "filestorage" region ++ fileStorageVersion⟩

/-- The `Endpoints` at another place; slashes at its end say nothing. -/
def ofPlace (place : String) : Endpoints :=
  let place := String.ofList (Cut.dropEnd '/' place.toList)
  ⟨place ++ "/" ++ coreVersion, place ++ "/" ++ fileStorageVersion⟩

/-- The `Endpoints` of a region, unless another place is named. -/
def select (region : String) : Option String → Endpoints
  | some place => ofPlace place
  | none => ofRegion region

end Endpoints

end VolumeDriver.Http
