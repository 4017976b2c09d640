import VolumeDriver.Http.Url.Parse
import VolumeDriver.Json.Value
set_option autoImplicit false

/-! # Requests and responses

A request goes to an address, which is not known to be a URL before it is read, with names and values
for its query. A name and a password in the address are not part of the URL that the request goes to. A
request that is never answered has a reason (`Unanswered`). -/

namespace VolumeDriver.Http

/-- The methods of requests. -/
inductive Method
  | get
  | post
  | delete
  deriving DecidableEq, Repr

/-- The method in words. -/
def Method.name : Method → String
  | get => "GET"
  | post => "POST"
  | delete => "DELETE"

/-- A request. -/
structure Request where
  method : Method
  address : String
  /-- names and values for the query, in order -/
  pairs : List (String × String) := []
  body : Option Json := none

/-- A response. -/
structure Response where
  status : Nat
  headers : List (String × List UInt8) := []
  body : List UInt8 := []
  deriving DecidableEq, Repr

/-- Whether a response says that all is well. -/
def Response.isSuccess (r : Response) : Bool :=
  200 ≤ r.status && r.status < 300

/-- The text of a header, if it is there and has no octets but the printable ones of ASCII. -/
def Response.header? (r : Response) (name : String) : Option String :=
  match r.headers.find? fun h => h.1.map Char.toLower = name.map Char.toLower with
  | some (_, value) =>
    if value.all fun b => b = 0x09 || (0x20 ≤ b && b < 0x7F) then Utf8.toText? value else none
  | none => none

/-- Why a request is never answered. -/
inductive Unanswered
  /-- the address is not a URL -/
  | badAddress (fault : UrlFault)
  /-- the URL does not lead to a server of this kind -/
  | badScheme (url : Url)
  /-- the URL cannot be sent -/
  | badUrl (url : Url)
  /-- there is no way to the host -/
  | noConnection (url : Url) (reason : String)
  /-- the connection ended before a response -/
  | closed (url : Url)
  deriving DecidableEq, Repr

/-- What is said of a URL that no request can go to. -/
def notRequested (url : Url) (reason : String) : String :=
  "builder error for url (" ++ url.toText ++ "): " ++ reason

/-- What is said of a URL that does not lead to a server. -/
def schemeRefused (url : Url) : String :=
  notRequested url "URL scheme is not allowed"

/-- The reason why a request is `Unanswered`, in words. -/
def Unanswered.message : Unanswered → String
  | badAddress fault => "builder error: " ++ fault.message
  | badScheme url => schemeRefused url
  | badUrl url => notRequested url "Parsed Url is not a valid Uri"
  | noConnection url reason =>
    "error sending request for url (" ++ url.toText ++ "): error trying to connect: " ++ reason
  | closed url =>
    "error sending request for url (" ++ url.toText ++
      "): connection closed before message completed"

/-- The `Url` that a request goes to. Names and values are added to any URL with a host. -/
def Request.url (r : Request) : Except Unanswered Url := do
  let url ← (Url.parse r.address).mapError .badAddress
  if url.host?.isNone then throw (.badScheme url)
  let url := url.withoutCredentials.withForm r.pairs
  if !url.isWeb then throw (.badScheme url)
  if !url.canBeSent then throw (.badUrl url)
  return url

end VolumeDriver.Http
