import VolumeDriver.Json.Record
set_option autoImplicit false

/-! # What an instance knows of itself

Every instance can ask a service where it runs. The driver uses the answer for what its configuration
leaves open. -/

namespace VolumeDriver

/-- Where an instance runs. -/
structure Metadata where
  compartmentId : String := ""
  /-- the short key of the region, such as `phx` -/
  regionKey : String := ""
  /-- the region's full name -/
  region : String := ""
  deriving DecidableEq, Repr

namespace Metadata

/-- Why the service did not say where the instance runs. -/
inductive Fault
  | request (message : String)
  | unreadable (message : String)
  deriving DecidableEq, Repr

/-- The `Metadata.Fault` in words. -/
def Fault.message : Fault → String
  | .request message => "failed to get instance metadata: " ++ message
  | .unreadable message => "failed to unmarshal instance metadata: " ++ message

/-- The form in which the service answers with `Metadata`. -/
def codec : Json.Codec Metadata :=
  Json.Fields.codec "InstanceMetadata"
    (.cons (.defaulted "compartmentId" .text "") <|
     .cons (.defaulted "region" .text "") <|
     .cons (.defaulted "canonicalRegionName" .text "") .nil)
    (fun m => (m.compartmentId, m.regionKey, m.region, ()))
    fun (compartmentId, regionKey, region, ()) => ⟨compartmentId, regionKey, region⟩

end Metadata

end VolumeDriver
