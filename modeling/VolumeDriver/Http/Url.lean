import VolumeDriver.Http.Host
set_option autoImplicit false

/-! # URLs

A URL has a scheme and a path, and may have an authority between them (`//`, credentials, a host and a
port), a query and a fragment. `Url.toText` writes it; the port that belongs to the scheme is not
written. -/

namespace VolumeDriver.Http

/-- A name, and perhaps a password, percent-encoded. -/
structure Credentials where
  name : String
  password : Option String
  deriving DecidableEq, Repr

/-- Where a URL leads. -/
structure Authority where
  credentials : Option Credentials := none
  host : Option Host := none
  port : Option UInt16 := none
  deriving DecidableEq, Repr

/-- A URL. The path, the query and the fragment are percent-encoded. -/
structure Url where
  scheme : String
  authority : Option Authority
  path : String
  query : Option String
  fragment : Option String
  deriving DecidableEq, Repr

namespace Url

/-! ## Schemes -/

/-- The ports of the schemes that lead to servers. -/
def serverSchemes : List (String × UInt16) :=
  [("http", 80), ("https", 443), ("ws", 80), ("wss", 443), ("ftp", 21)]

/-- Whether a scheme leads to servers. -/
def leadsToServer (scheme : String) : Bool :=
  (serverSchemes.lookup scheme).isSome

/-- Whether a URL is of a scheme for web pages. -/
def isWeb (u : Url) : Bool :=
  u.scheme = "http" || u.scheme = "https"

/-! ## Writing -/

/-- A part of a URL after its mark, if there is one. -/
def marked (mark : String) : Option String → String
  | some part => mark ++ part
  | none => ""

/-- Credentials before a host. -/
def credentialsText : Option Credentials → String
  | some c => c.name ++ marked ":" c.password ++ "@"
  | none => ""

/-- What stands between a scheme and a path. A path that would be taken for an authority is kept apart
    from the scheme. -/
def authorityText (u : Url) : String :=
  match u.authority with
  | some a =>
    "//" ++ credentialsText a.credentials ++ marked "" (a.host.map Host.toText) ++
      marked ":" (a.port.map fun p => toString p.toNat)
  | none => if Cut.startsWith u.path "//" then "/." else ""

/-- The `Url` as text. -/
def toText (u : Url) : String :=
  u.scheme ++ ":" ++ u.authorityText ++ u.path ++ marked "?" u.query ++ marked "#" u.fragment

/-! ## Parts -/

/-- The host, if there is one. -/
def host? (u : Url) : Option Host :=
  u.authority.bind (·.host)

/-- The path and the query, which is what a server is sent. -/
def target (u : Url) : String :=
  u.path ++ marked "?" u.query

/-- The `Url` with names and values added to its query. -/
def withForm (u : Url) (pairs : List (String × String)) : Url :=
  if pairs.isEmpty then u
  else
    let form := Percent.form pairs
    { u with query := some (match u.query with
      | some "" | none => form
      | some query => query ++ "&" ++ form) }

/-- Whether a part is in UTF-8. -/
def isText (part : String) : Bool :=
  (Percent.decodeText? part.toList).isSome

/-- Whether credentials can be told apart from the URL that they stand in. -/
def areReadable (c : Credentials) : Bool :=
  isText c.name && (c.name ≠ "" || c.password.any isText)

/-- The `Url` without its `Credentials`, if they can be told apart from it. -/
def withoutCredentials (u : Url) : Url :=
  { u with authority := u.authority.map fun a =>
      { a with credentials := a.credentials.filter fun c => !areReadable c } }

/-- The greatest length of a URL that is sent. -/
def longestSent : Nat := 65534

/-- Whether a host is sent as it is. -/
def isSentHost : Host → Bool
  | .name text => !text.any fun c =>
      ['"', Char.ofNat 0x60, Char.ofNat 0x7B, Char.ofNat 0x7D].contains c
  | _ => true

/-- Whether a URL can be sent. -/
def canBeSent (u : Url) : Bool :=
  u.host?.all isSentHost && u.toText.utf8ByteSize ≤ longestSent

end Url

end VolumeDriver.Http
