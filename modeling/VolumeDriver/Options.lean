import VolumeDriver.Json.Codec
import VolumeDriver.Text.Base64
import VolumeDriver.Text.Cut
set_option autoImplicit false

/-! # The options of a call-out

The `Options` arrive as one argument: a JSON object of strings, which `parse` reads. The values of secrets
are base64 of UTF-8 and are decoded while reading; all other values are kept as they are. -/

namespace VolumeDriver

/-- The options of a call-out. -/
structure Options where
  entries : Dictionary String

namespace Options

/-- The key of the volume's name. -/
def volumeNameKey : String := "kubernetes.io/pvOrVolumeName"

/-- The key of the file system type. -/
def fsTypeKey : String := "kubernetes.io/fsType"

/-- The key of the access mode, `rw` or `ro`. -/
def readWriteKey : String := "kubernetes.io/readwrite"

/-- How the keys of secrets begin. -/
def secretStart : String := "kubernetes.io/secret/"

/-- No options. -/
def empty : Options :=
  ⟨Dictionary.empty⟩

/-- The value of a key. -/
def get? (o : Options) (key : String) : Option String :=
  o.entries.get? key

/-- The name of the volume the call-out is about, under `volumeNameKey`. -/
def volumeName? (o : Options) : Option String :=
  o.get? volumeNameKey

/-- The file system type asked for, under `fsTypeKey`; empty if none is. -/
def fsType (o : Options) : String :=
  (o.get? fsTypeKey).getD ""

/-- The access mode asked for. -/
def readWrite? (o : Options) : Option String :=
  o.get? readWriteKey

/-! ## Reading -/

/-- Why the value of a secret is refused. -/
inductive SecretFault
  | base64 (fault : Base64.Fault)
  | utf8 (fault : Utf8.Fault)
  deriving DecidableEq, Repr

/-- The `SecretFault` in words. -/
def SecretFault.message : SecretFault → String
  | .base64 fault => fault.message
  | .utf8 fault => fault.message

/-- Why options are refused. -/
inductive Fault
  /-- the argument is no JSON object of strings -/
  | notStrings (raw : String) (fault : Json.Fault)
  /-- the value of the secret `key` is not base64 of UTF-8 -/
  | secret (key : String) (fault : SecretFault)
  deriving DecidableEq, Repr

/-- The `Options.Fault` in words. -/
def Fault.message : Fault → String
  | .notStrings raw fault =>
    "failed to unmarshal options " ++ Quoted.quote raw ++ ": " ++ fault.message (Utf8.octets raw)
  | .secret key fault => "failed to decode secret option " ++ key ++ ": " ++ fault.message

/-- Whether the values under the key are secrets: it begins with `secretStart`. -/
def isSecret (key : String) : Bool :=
  Cut.startsWith key secretStart

/-- The text of a secret, which is base64 of UTF-8. -/
def decodeSecret (value : String) : Except SecretFault String :=
  match Base64.decode (Utf8.octets value) with
  | .error fault => .error (.base64 fault)
  | .ok octets =>
    match Utf8.decode octets with
    | .error fault => .error (.utf8 fault)
    | .ok text => .ok (String.ofList text)

/-- The value of a key as it is kept: by `decodeSecret` if the key `isSecret`. -/
def decodeValue (key value : String) : Except Fault String :=
  if isSecret key then
    match decodeSecret value with
    | .error fault => .error (.secret key fault)
    | .ok text => .ok text
  else .ok value

/-- The `Options` that an argument spells. Of several secrets that are at fault, the one with the least key
    is reported. -/
def parse (raw : String) : Except Fault Options :=
  match (Json.Codec.dictionary .text).decode (Utf8.octets raw) with
  | .error fault => .error (.notStrings raw fault)
  | .ok entries =>
    match entries.traverse decodeValue with
    | .error fault => .error fault
    | .ok entries => .ok ⟨entries⟩

end Options

end VolumeDriver
