import VolumeDriver.Http.Connect
import VolumeDriver.Http.Exchange
import VolumeDriver.Http.InstanceService
import VolumeDriver.Http.Reach
set_option autoImplicit false

/-! # A network in memory

`Network` has one server that answers whatever is sent to it with responses that were laid down in
advance, one after the other. A network can also be down; then nothing that is sent arrives, and no name
can be looked up. -/

namespace VolumeDriver.InMemory

/-- What becomes of a request that arrives. -/
inductive Reply
  | response (r : Http.Response)
  /-- the connection ends before a response -/
  | close

/-- A network. -/
structure Network where
  isDown : Bool := false
  /-- what becomes of the next requests -/
  replies : List Reply := []
  /-- what every request beyond these is answered -/
  fallback : Http.Response := { status := 500 }
  /-- the requests that have arrived, with their URLs -/
  arrived : List (Http.Url × Http.Request) := []

namespace Network

/-- Sends an `Http.Request`, through a proxy if there is one. -/
def send (n : Network) (proxy : Option Http.Url) (r : Http.Request) :
    Except Http.Unanswered Http.Response × Network :=
  match r.url with
  | .error reason => (.error reason, n)
  | .ok url =>
    if n.isDown then (.error (.noConnection url (Http.noWayTo (proxy.getD url))), n)
    else
      let n := { n with arrived := n.arrived ++ [(url, r)] }
      match n.replies with
      | [] => (.ok n.fallback, n)
      | .response r :: replies => (.ok r, { n with replies })
      | .close :: replies => (.error (.closed url), { n with replies })

/-- Asks an instance's own service for its `Metadata`. -/
def fetchMetadata (n : Network) (address : String) : Except Metadata.Fault Metadata × Network :=
  let request := Http.InstanceService.request address
  let (result, n) := n.send none request
  match request.url with
  | .ok url => (Http.InstanceService.answerOf url result, n)
  | .error reason => (.error (.request reason.message), n)

/-- Has a `ControlPlane.Exchange` with a control plane. -/
def exchange (n : Network) (settings : Http.Settings) (e : ControlPlane.Exchange) :
    Except ControlPlane.Fault e.Answer × Network :=
  let (result, n) := n.send settings.proxy (Http.requestOf settings.endpoints e)
  (Http.answerOf e result, n)

end Network

end VolumeDriver.InMemory
