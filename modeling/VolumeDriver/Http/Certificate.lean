import VolumeDriver.Http.Der
import VolumeDriver.Http.Pem
set_option autoImplicit false

/-! # Certificates that can be trusted with

A certificate names a subject and its key, and is signed. Only its outer form is looked at by `isSound`: the
values it is made of are there in their order, the algorithm is the same inside and outside of what is
signed, and of the extensions those that are known come once and those that are not are not critical.
Certificates of the first version, which have no extensions, are taken as well. -/

namespace VolumeDriver.Http

/-- Why a file of certificates is refused. -/
inductive CertificateFault
  /-- a section does not begin, end or read as it should -/
  | sections
  | certificate
  deriving DecidableEq, Repr

/-- The fault in words. -/
def CertificateFault.message : CertificateFault → String
  | sections => "builder error: invalid certificate encoding"
  | certificate => "builder error: invalid peer certificate: BadEncoding"

namespace Certificate

/-- What a certificate consists of. -/
structure Outline where
  /-- what is signed -/
  body : List UInt8
  algorithm : List UInt8

/-- The outline of a certificate. The signature is a whole number of octets. -/
def outline? (certificate : List UInt8) : Option Outline := do
  let [content] ← Der.only? [Der.sequence] certificate | none
  let [body, algorithm, signature] ←
    Der.only? [Der.sequence, Der.sequence, Der.bitString] content | none
  if signature.head? = some 0 then some ⟨body, algorithm⟩ else none

/-! ## Extensions -/

/-- What the identifiers of the extensions begin with that are defined for certificates in general. -/
def generalExtensions : List UInt8 := [0x55, 0x1D]

/-- The extension on what the key may be used for, whose value is not looked at. -/
def keyUsage : UInt8 := 15

/-- The other extensions that are known: further names of the subject, its place in a chain, limits on
    names, where revocations are listed, and further uses of the key. -/
def knownExtensions : List UInt8 := [17, 19, 30, 31, 37]

/-- An extension. -/
structure Extension where
  id : List UInt8
  isCritical : Bool
  value : List UInt8

/-- The extension with some content. An extension is not critical if it does not say so. -/
def Extension.of? (content : List UInt8) : Option Extension := do
  let (id, rest) ← Der.expect? Der.objectIdentifier content
  let (isCritical, rest) ←
    if rest.head? = some Der.boolean then
      match Der.expect? Der.boolean rest with
      | some ([0xFF], rest) => some (true, rest)
      | some ([0x00], rest) => some (false, rest)
      | _ => none
    else some (false, rest)
  let [value] ← Der.only? [Der.octetString] rest | none
  return ⟨id, isCritical, value⟩

/-- The number of an extension that is known. -/
def Extension.known? (e : Extension) : Option UInt8 :=
  if e.id.dropLast = generalExtensions then
    e.id.getLast?.filter fun n => n = keyUsage || knownExtensions.contains n
  else none

/-- Whether an extension can be taken by itself. -/
def Extension.isSound (e : Extension) : Bool :=
  match e.known? with
  | some n => n = keyUsage || (Der.only? [Der.sequence] e.value).isSome
  | none => !e.isCritical

/-- Whether extensions can be taken: there are some, each one can, and none that is known comes twice. -/
def areSound (extensions : List Extension) : Bool :=
  let known := extensions.filterMap Extension.known?
  !extensions.isEmpty && extensions.all Extension.isSound && known.eraseDups.length = known.length

/-! ## The body -/

/-- The tags of what every body holds after its version and number: algorithm, issuer, time, subject and
    key. -/
def bodyTags : List UInt8 := List.replicate 5 Der.sequence

/-- Whether what follows the version in a body is as it should be. -/
def isRest (algorithm : List UInt8) (s : List UInt8) : Option Unit := do
  let (_, s) ← Der.expect? Der.integer s
  let (inside, s) ← Der.expect? Der.sequence s
  if inside ≠ algorithm then none
  let s ← bodyTags.tail.foldlM (fun s tag => (Der.expect? tag s).map (·.2)) s
  if s = [] then return ()
  let [wrapped] ← Der.only? [Der.explained 3] s | none
  let [list] ← Der.only? [Der.sequence] wrapped | none
  let extensions ← (← Der.all? Der.sequence list).mapM Extension.of?
  if areSound extensions then return () else none

/-- The version that says that there may be extensions. -/
def thirdVersion : List UInt8 := [Der.integer, 1, 2]

/-- Whether a body is as it should be. -/
def isBody (o : Outline) : Bool :=
  match Der.expect? (Der.explained 0) o.body with
  | some (version, rest) => version = thirdVersion && (isRest o.algorithm rest).isSome
  | none => (Der.only? (Der.integer :: bodyTags) o.body).isSome

/-- Whether a certificate can be trusted with. -/
def isSound (certificate : List UInt8) : Bool :=
  match outline? certificate with
  | some o => isBody o
  | none => false

/-- The label of certificates in files. -/
def label : List UInt8 := Utf8.octets "CERTIFICATE"

/-- Whether a file of certificates can be trusted with. -/
def checkFile (content : List UInt8) : Except CertificateFault Unit :=
  match Pem.contents? label content with
  | none => .error .sections
  | some certificates =>
    if certificates.all isSound then .ok () else .error .certificate

end Certificate

end VolumeDriver.Http
