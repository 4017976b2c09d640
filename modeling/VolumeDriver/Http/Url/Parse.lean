import VolumeDriver.Http.Url
import VolumeDriver.Http.Url.Path
set_option autoImplicit false

/-! # Reading URLs

`Url.parse` reads an absolute URL the lenient way that browsers do: blanks around it and line breaks
inside it are passed over, and what may not stand in a part is percent-encoded. Under the schemes that
lead to servers and under that of files, a backslash counts as a slash. Behind a scheme that leads to
servers any number of slashes, also none, counts as two. A scheme of no known kind may be followed by a
path that is kept as it is written. -/

namespace VolumeDriver.Http

/-- Why a text is not a URL. -/
inductive UrlFault
  /-- there is no scheme -/
  | relative
  | badHost (fault : HostFault)
  | badPort
  deriving DecidableEq, Repr

/-- The fault in words. -/
def UrlFault.message : UrlFault → String
  | relative => "relative URL without a base"
  | badHost fault => fault.message
  | badPort => "invalid port number"

namespace Url

/-! ## Schemes -/

/-- Whether a character may stand in a scheme, after its first one. -/
def isSchemeChar (c : Char) : Bool :=
  c.isAlphanum || ['+', '-', '.'].contains c

/-- The scheme at the beginning of a URL, and what follows its colon. -/
def splitScheme? (s : List Char) : Option (String × List Char) :=
  match s.span isSchemeChar with
  | (c :: scheme, ':' :: rest) =>
    if c.isAlpha then some (String.ofList ((c :: scheme).map Char.toLower), rest) else none
  | _ => none

/-- The URL without what is passed over: blanks at both ends, and line breaks and tabs. -/
def clean (s : List Char) : List Char :=
  let isOuter (c : Char) : Bool := c ≤ ' '
  (((s.dropWhile isOuter).reverse.dropWhile isOuter).reverse).filter fun c =>
    !(['\t', '\n', '\r'].contains c)

/-- A text in which backslashes count as slashes. -/
def withSlashes (s : List Char) : List Char :=
  s.map fun c => if c = '\\' then '/' else c

/-! ## Authorities -/

/-- The credentials that a text spells. -/
def readCredentials (s : List Char) : Option Credentials :=
  let encoded (part : List Char) : String :=
    String.ofList (Percent.encode Percent.staysInCredentials part)
  let (name, password) := Cut.atFirst ':' s
  let password := password.filter fun p => !p.isEmpty
  if name.isEmpty && password.isNone then none else some ⟨encoded name, password.map encoded⟩

/-- A host, and what follows the colon after it. A colon inside of brackets belongs to the host. -/
def splitHost (inBrackets : Bool) : List Char → List Char × Option (List Char)
  | [] => ([], none)
  | c :: s =>
    if c = ':' && !inBrackets then ([], some s)
    else
      let (host, rest) := splitHost (c = '[' || (inBrackets && c ≠ ']')) s
      (c :: host, rest)

/-- The port that digits spell, if it is not the scheme's own. -/
def readPort (scheme : String) (digits : List Char) : Except UrlFault (Option UInt16) :=
  match Numeral.value? digits with
  | none => .ok none
  | some n =>
    if n < 65536 then
      let port := UInt16.ofNat n
      .ok (if serverSchemes.lookup scheme = some port then none else some port)
    else .error .badPort

/-- A host under a scheme. -/
def readHost (scheme : String) (s : List Char) : Except UrlFault (Option Host) :=
  if leadsToServer scheme then ((Host.parse s).mapError .badHost).map some
  else (Host.parsePlain s).mapError .badHost

/-- An authority, and what follows its port. -/
def readAuthority (scheme : String) (s : List Char) :
    Except UrlFault (Authority × List Char) := do
  let (credentials, s) := match Cut.splitLast? ['@'] s with
    | some (credentials, s) => (readCredentials credentials, s)
    | none => (none, s)
  let (host, port) := splitHost false s
  let host ← readHost scheme host
  if host.isNone && (credentials.isSome || port.isSome) then throw (.badHost .empty)
  let (digits, rest) := (port.getD []).span Char.isDigit
  let port ← readPort scheme digits
  if rest = [] || rest.head? = some '\\' then return ({ credentials, host, port }, rest)
  else throw .badPort

/-! ## What follows a scheme -/

/-- Behind a scheme that leads to servers. -/
def readServer (scheme : String) (s : List Char) : Except UrlFault (Authority × String) := do
  let (authority, path) := ((withSlashes s).dropWhile (· = '/')).span (· ≠ '/')
  let (authority, _) ← readAuthority scheme authority
  let names := UrlPath.names false (UrlPath.dropSlash path)
  return (authority, String.ofList (UrlPath.written names))

/-- Behind two slashes after any other scheme. An authority of nothing but an `@` is followed by
    nothing. -/
def readOther (scheme : String) (isLast : Bool) (s : List Char) :
    Except UrlFault (Authority × String) := do
  let (authority, path) := s.span (· ≠ '/')
  if authority = ['@'] && !(isLast && path.isEmpty) then throw (.badHost .empty)
  let (authority, rest) ← readAuthority scheme authority
  let path := rest ++ path
  let names := if path.isEmpty then [] else UrlPath.names false (UrlPath.dropSlash path)
  return (authority, String.ofList (UrlPath.written names))

/-- The host of a file; the machine's own is not named. -/
def readFileHost (s : List Char) : Except UrlFault (Option Host) :=
  if s.isEmpty || UrlPath.isDrive s then .ok none
  else
    ((Host.parse s).mapError .badHost).map fun host =>
      if host = .name "localhost" then none else some host

/-- Behind the scheme of files. -/
def readFile (s : List Char) : Except UrlFault (Authority × String) := do
  let s := withSlashes s
  let (host, names) ← match Cut.dropPrefix? ['/', '/'] s with
    | none => pure (none, UrlPath.names true (UrlPath.dropSlash s))
    | some s =>
      let (text, path) := s.span (· ≠ '/')
      let host ← readFileHost text
      let path := if UrlPath.isDrive text then s
        else if host.isSome then UrlPath.dropSlash path
        else path
      pure (host, UrlPath.names true path)
  let host := if UrlPath.leadsToDrive names then none else host
  let path := (UrlPath.written names).dropWhile (· = '/')
  return ({ host }, String.ofList ('/' :: path))

/-- What stands between a scheme and a query. -/
def readHierarchy (scheme : String) (isLast : Bool) (s : List Char) :
    Except UrlFault (Option Authority × String) :=
  let led : Authority × String → Option Authority × String := fun (a, path) => (some a, path)
  if leadsToServer scheme then (readServer scheme s).map led
  else if scheme = "file" then (readFile s).map led
  else
    match s with
    | '/' :: '/' :: s => (readOther scheme isLast s).map led
    | '/' :: s => .ok (none, String.ofList (UrlPath.written (UrlPath.names false s)))
    | s => .ok (none, String.ofList (Percent.encode Percent.staysPlain s))

/-! ## The whole -/

/-- A query under a scheme. -/
def readQuery (scheme : String) (s : List Char) : String :=
  let stays := if leadsToServer scheme || scheme = "file" then Percent.staysInServerQuery
    else Percent.staysInQuery
  String.ofList (Percent.encode stays s)

/-- The URL that a text spells. -/
def parse (text : String) : Except UrlFault Url := do
  match splitScheme? (clean text.toList) with
  | none => throw .relative
  | some (scheme, s) =>
    let (s, fragment) := Cut.atFirst '#' s
    let (s, query) := Cut.atFirst '?' s
    let (authority, path) ← readHierarchy scheme (query.isNone && fragment.isNone) s
    return {
      scheme
      authority
      path
      query := query.map (readQuery scheme)
      fragment := fragment.map fun f =>
        String.ofList (Percent.encode Percent.staysInFragment f) }

end Url

end VolumeDriver.Http
