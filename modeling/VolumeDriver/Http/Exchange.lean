import VolumeDriver.ControlPlane.Exchange
import VolumeDriver.Http.Endpoint
import VolumeDriver.Http.Message
import VolumeDriver.Resource.Codec
set_option autoImplicit false

/-! # Exchanges over HTTP

`requestOf` is the request of an exchange: collections are asked with names and values, and a single
resource by its identifier in the path. `answerOf` reads the response. -/

namespace VolumeDriver.Http

open ControlPlane (Exchange Page)

/-! ## Requests -/

/-- A request for a resource of a collection. -/
def single (method : Method) (base collection id : String) : Request :=
  { method, address := base ++ "/" ++ collection ++ "/" ++ id }

/-- A request for a part of a listing; the page comes last. -/
def listing (base collection : String) (pairs : List (String × String)) (page : Option String) :
    Request :=
  { method := .get
    address := base ++ "/" ++ collection
    pairs := pairs ++ (page.map fun token => ("page", token)).toList }

/-- A request to create a resource in a collection. -/
def creation (base collection : String) (members : List (String × String)) : Request :=
  { method := .post
    address := base ++ "/" ++ collection
    body := some (.object (members.map fun (name, value) => (name, .text value))) }

/-- The `Request` of an `Exchange`. -/
def requestOf (e : Endpoints) : Exchange → Request
  | .attachVolume instanceId volumeId =>
    creation e.core "volumeAttachments/"
      [("instanceId", instanceId), ("type", "iscsi"), ("volumeId", volumeId)]
  | .getVolumeAttachment id => single .get e.core "volumeAttachments" id
  | .listVolumeAttachments compartmentId volumeId page =>
    listing e.core "volumeAttachments/"
      [("compartmentId", compartmentId), ("volumeId", volumeId)] page
  | .detachVolume id => single .delete e.core "volumeAttachments" id
  | .getInstance id => single .get e.core "instances" id
  | .listInstances compartmentId displayName page =>
    listing e.core "instances/"
      (("compartmentId", compartmentId) ::
        (displayName.map fun name => ("displayName", name)).toList) page
  | .getVcn id => single .get e.core "vcns" id
  | .listSubnets compartmentId vcnId page =>
    listing e.core "subnets" [("compartmentId", compartmentId), ("vcnId", vcnId)] page
  | .listVnicAttachments compartmentId page =>
    listing e.core "vnicAttachments/" [("compartmentId", compartmentId)] page
  | .getVnic id => single .get e.core "vnics" id
  | .getFileSystem id => single .get e.fileStorage "fileSystems" id
  | .listMountTargets compartmentId availabilityDomain page =>
    listing e.fileStorage "mountTargets"
      [("compartmentId", compartmentId), ("availabilityDomain", availabilityDomain)] page
  | .getPrivateIp id => single .get e.core "privateIps" id
  | .listExports exportSetId fileSystemId page =>
    listing e.fileStorage "exports"
      [("exportSetId", exportSetId), ("fileSystemId", fileSystemId)] page
  | .createExport exportSetId fileSystemId path =>
    creation e.fileStorage "exports"
      [("exportSetId", exportSetId), ("fileSystemId", fileSystemId), ("path", path)]
  | .getExport id => single .get e.fileStorage "exports" id
  | .deleteExport id => single .delete e.fileStorage "exports" id

/-! ## Responses -/

/-- What a refusal says of itself. -/
structure Refusal where
  code : String := ""
  message : String := ""

/-- Refusals as JSON. -/
def Refusal.codec : Json.Codec Refusal :=
  Json.Fields.codec "ApiErrorBody"
    (.cons (.defaulted "code" .text "") <| .cons (.defaulted "message" .text "") .nil)
    (fun r => (r.code, r.message, ()))
    fun (code, message, ()) => ⟨code, message⟩

/-- The value of a response's body, read with a `Json.Codec`. -/
def bodyOf {α : Type} (operation : String) (c : Json.Codec α) (r : Response) :
    Except ControlPlane.Fault α :=
  match c.decode r.body with
  | .ok a => .ok a
  | .error fault =>
    .error (.unreadable operation ("error decoding response body: " ++ fault.message r.body))

/-- The header with the token of the next page. -/
def nextPageHeader : String := "opc-next-page"

/-- The part of a listing in a response, with the token in its `nextPageHeader`. -/
def pageOf {α : Type} (operation : String) (c : Json.Codec α) (r : Response) :
    Except ControlPlane.Fault (Page α) := do
  return ⟨← bodyOf operation c.list r, r.header? nextPageHeader⟩

/-- What a `Response` that says that all is well brings. -/
def successOf : (e : Exchange) → Response → Except ControlPlane.Fault e.Answer
  | .attachVolume .., r => bodyOf "AttachVolume" VolumeAttachment.codec r
  | .getVolumeAttachment .., r => bodyOf "GetVolumeAttachment" VolumeAttachment.codec r
  | .listVolumeAttachments .., r => pageOf "ListVolumeAttachments" VolumeAttachment.codec r
  | .detachVolume .., _ | .deleteExport .., _ => .ok ()
  | .getInstance .., r => bodyOf "GetInstance" Instance.codec r
  | .listInstances .., r => pageOf "ListInstances" Instance.codec r
  | .getVcn .., r => bodyOf "GetVcn" Vcn.codec r
  | .listSubnets .., r => pageOf "ListSubnets" Subnet.codec r
  | .listVnicAttachments .., r => pageOf "ListVnicAttachments" VnicAttachment.codec r
  | .getVnic .., r => bodyOf "GetVnic" Vnic.codec r
  | .getFileSystem .., r => bodyOf "GetFileSystem" FileSystem.codec r
  | .listMountTargets .., r => pageOf "ListMountTargets" MountTarget.codec r
  | .getPrivateIp .., r => bodyOf "GetPrivateIp" PrivateIp.codec r
  | .listExports .., r => pageOf "ListExports" Export.codec r
  | .createExport .., r => bodyOf "CreateExport" Export.codec r
  | .getExport .., r => bodyOf "GetExport" Export.codec r

/-- The refusal of a `Response`. What cannot be read of it is left out. -/
def refusalOf (operation : String) (r : Response) : ControlPlane.Fault :=
  let refusal := (Refusal.codec.decode r.body).toOption.getD {}
  .refused operation r.status refusal.code refusal.message

/-- What a request that may not be answered comes to: `successOf` or `refusalOf` the response. -/
def answerOf (e : Exchange) : Except Unanswered Response → Except ControlPlane.Fault e.Answer
  | .error reason => .error (.unanswered e.operation reason.message)
  | .ok r => if r.isSuccess then successOf e r else .error (refusalOf e.operation r)

end VolumeDriver.Http
