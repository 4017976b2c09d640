import VolumeDriver.Domain.Lookup
import VolumeDriver.Http.Url
set_option autoImplicit false

/-! # A machine without a network

Where there is no network, names cannot be looked up and addresses cannot be reached. `noWayTo` says
what becomes of a connection to the host of a URL. -/

namespace VolumeDriver.Http

/-- A connection that fails with an error of the system. -/
def connectFault (message : String) (code : Nat) : String :=
  "tcp connect error: " ++ message ++ " (os error " ++ toString code ++ ")"

/-- A connection that there is no route for. -/
def noRoute : String :=
  connectFault "Network is unreachable" 101

/-- A name that is not found. -/
def notFound (reason : String) : String :=
  "dns error: failed to lookup address information: " ++ reason

/-- Why a host cannot be reached. -/
def noWayToHost : Host → String
  | .ipv4 _ => noRoute
  | .ipv6 ip =>
    if ip.isMulticast || ip.isIpv4 then noRoute
    else if ip.isLinkLocal then connectFault "Invalid argument" 22
    else connectFault "Cannot assign requested address" 99
  | .name text =>
    if text = "localhost" then noRoute
    else if Domain.Lookup.canBeLookedUp text.toList then notFound "Temporary failure in name resolution"
    else notFound "Name or service not known"

/-- Why the host of a URL cannot be reached. A name that no certificate can be for is not looked up. -/
def noWayTo (url : Url) : String :=
  match url.host? with
  | some (.name text) =>
    if url.scheme = "https" && !Domain.Lookup.mayBeCertified text.toList then "invalid dnsname"
    else noWayToHost (.name text)
  | some host => noWayToHost host
  | none => noRoute

end VolumeDriver.Http
