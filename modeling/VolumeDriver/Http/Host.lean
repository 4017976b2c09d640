import VolumeDriver.Domain.Name
import VolumeDriver.Http.Percent
import VolumeDriver.Text.Ipv6
set_option autoImplicit false

/-! # The hosts of URLs

A URL names its host by an address or by a name. Where the scheme leads to servers, names are domain
names: they are percent-decoded and brought into the form in which they are looked up, and one that ends
in a number is an address of version four (`Host.parse`). Other schemes have names of their own, which
are kept as they are (`Host.parsePlain`). -/

namespace VolumeDriver.Http

/-- A host. -/
inductive Host
  | name (text : String)
  | ipv4 (ip : Ipv4)
  | ipv6 (ip : Ipv6)
  deriving DecidableEq, Repr

/-- Why a text does not name a host. -/
inductive HostFault
  | empty
  /-- it is not a domain name -/
  | badDomain
  | badIpv4
  | badIpv6
  /-- it has a character that no host has -/
  | badChar
  deriving DecidableEq, Repr

/-- The `HostFault` in words. -/
def HostFault.message : HostFault → String
  | empty => "empty host"
  | badDomain => "invalid international domain name"
  | badIpv4 => "invalid IPv4 address"
  | badIpv6 => "invalid IPv6 address"
  | badChar => "invalid domain character"

namespace Host

/-! ## Reading -/

/-- Whether a character has another meaning where a host stands. -/
def isReserved (c : Char) : Bool :=
  ['#', '/', ':', '<', '>', '?', '@', '[', '\\', ']', '^', '|'].contains c

/-- Whether a character may stand in a domain name. -/
def isDomainChar (c : Char) : Bool :=
  Percent.isMark c && !isReserved c && c ≠ '%'

/-- Whether a character may stand in a name that is kept as it is. -/
def isPlainChar (c : Char) : Bool :=
  !isReserved c && !(['\x00', '\t', '\n', '\r', ' '].contains c)

/-- The domain name that a text spells. -/
def domain? (s : List Char) : Option (List Char) := do
  let domain ← Domain.toAscii? (← Percent.decodeText? s)
  if domain.all isDomainChar then some domain else none

/-- The address in brackets, after the first of them. -/
def parseBracketed (s : List Char) : Except HostFault Host :=
  match s.getLast?, Ipv6.parse? s.dropLast with
  | some ']', some ip => .ok (.ipv6 ip)
  | _, _ => .error .badIpv6

/-- The `Host` that a text names under a scheme that leads to servers. -/
def parse : List Char → Except HostFault Host
  | '[' :: s => parseBracketed s
  | s =>
    match domain? s with
    | none => .error .badDomain
    | some [] => .error .empty
    | some domain =>
      if Ipv4.endsInNumber domain then
        match Ipv4.parseLoose? domain with
        | some ip => .ok (.ipv4 ip)
        | none => .error .badIpv4
      else .ok (.name (String.ofList domain))

/-- The host that a text names under any other scheme, where there need not be one. -/
def parsePlain : List Char → Except HostFault (Option Host)
  | [] => .ok none
  | '[' :: s => some <$> parseBracketed s
  | s =>
    if s.all isPlainChar then
      .ok (some (.name (String.ofList (Percent.encode Percent.staysPlain s))))
    else .error .badChar

/-! ## Writing -/

/-- The `Host` as it stands in a URL. -/
def toText : Host → String
  | name text => text
  | ipv4 ip => String.ofList ip.toChars
  | ipv6 ip => String.ofList ('[' :: ip.toChars ++ [']'])

end Host

end VolumeDriver.Http
