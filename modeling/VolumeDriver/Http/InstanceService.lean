import VolumeDriver.Config.Metadata
import VolumeDriver.Http.Message
import VolumeDriver.Http.Reason
set_option autoImplicit false

/-! # Asking the instance's own service over HTTP -/

namespace VolumeDriver.Http.InstanceService

/-- Where every instance finds the service. -/
def standardAddress : String := "http://169.254.169.254/opc/v1/instance/"

/-- The request for what the instance knows of itself. -/
def request (address : String) : Request :=
  { method := .get, address }

/-- What is said of a refusal. -/
def refused (url : Url) (status : Nat) : String :=
  let side := if status < 500 then "client" else "server"
  "HTTP status " ++ side ++ " error (" ++ toString status ++ " " ++ Reason.ofStatus status ++
    ") for url (" ++ url.toText ++ ")"

/-- What the request to a URL comes to. -/
def answerOf (url : Url) : Except Unanswered Response → Except Metadata.Fault Metadata
  | .error reason => .error (.request reason.message)
  | .ok r =>
    if 400 ≤ r.status then .error (.request (refused url r.status))
    else
      match Metadata.codec.decode r.body with
      | .ok metadata => .ok metadata
      | .error fault =>
        .error (.unreadable ("error decoding response body: " ++ fault.message r.body))

end VolumeDriver.Http.InstanceService
