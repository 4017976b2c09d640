import VolumeDriver.Config.Metadata
import VolumeDriver.Text.Blank
set_option autoImplicit false

/-! # The configuration of the driver

A `Config` is what the configuration file says. What it leaves open about the region and the
compartment is filled in from the instance's metadata (`Config.applyDefaults`), and what is needed is
then checked (`Config.validate`). -/

namespace VolumeDriver

/-- The section of a `Config` that identifies the cluster and the driver's user. -/
structure Auth where
  /-- the region's full name -/
  region : String := ""
  /-- the short key of the region -/
  regionKey : String := ""
  tenancy : String := ""
  /-- the compartment of the cluster's instances and volumes -/
  compartment : String := ""
  user : String := ""
  key : String := ""
  passphrase : String := ""
  /-- a former name of `passphrase` -/
  keyPassphrase : String := ""
  fingerprint : String := ""
  /-- the network that the cluster's nodes are in -/
  vcn : String := ""
  deriving DecidableEq, Repr

/-- What the configuration file says. -/
structure Config where
  auth : Auth := {}
  /-- whether the instance itself is the driver's user -/
  useInstancePrincipals : Bool := false
  /-- where the control plane is reached, if not where the region's is -/
  endpoint : Option String := none
  deriving DecidableEq, Repr

namespace Config

/-- Why there is no configuration to work with. -/
inductive Fault
  | notFound (path : String)
  /-- the file system refuses access -/
  | access (path message : String)
  /-- the file is not what a configuration looks like -/
  | malformed (path : String)
  | missingField (description key path : String)
  | metadata (fault : Metadata.Fault)
  deriving DecidableEq, Repr

/-- The section of the fields that can be missing. -/
def authSection : String := "auth"

/-- The `Config.Fault` in words. -/
def Fault.message : Fault → String
  | .notFound path => "config file " ++ path ++ " does not exist"
  | .access path message => "failed to access " ++ path ++ ": " ++ message
  | .malformed path => "failed to parse " ++ path
  | .missingField description key path =>
    "missing " ++ description ++ ": add " ++ key ++ " to [" ++ authSection ++ "] in " ++ path
  | .metadata fault => fault.message

/-! ## Defaults -/

/-- Whether the configuration leaves open where the cluster is, so that `applyDefaults` fetches the
    metadata. -/
def needsMetadata (c : Config) : Bool :=
  c.auth.region = "" || c.auth.regionKey = "" || c.auth.compartment = ""

/-- A text, or another one if it is empty. -/
def orElse (text other : String) : String :=
  if text = "" then other else text

/-- The configuration with what it leaves open taken from the `Metadata`. -/
def fillFrom (c : Config) (m : Metadata) : Config :=
  { c with auth := { c.auth with
      region := orElse c.auth.region m.region
      regionKey := orElse c.auth.regionKey m.regionKey
      compartment := orElse c.auth.compartment m.compartmentId } }

/-- The configuration with the passphrase under its present name. -/
def migratePassphrase (c : Config) : Config :=
  { c with auth := { c.auth with passphrase := orElse c.auth.passphrase c.auth.keyPassphrase } }

/-- Fills in what the configuration leaves open (`fillFrom`). The metadata is fetched only if it is needed
    (`needsMetadata`); if it cannot be had, the configuration stays as it is. -/
def applyDefaults {m : Type → Type} [Monad m] (fetch : m (Except Metadata.Fault Metadata))
    (c : Config) : m (Except Fault Unit × Config) :=
  if c.needsMetadata then do
    match ← fetch with
    | .error fault => return (.error (.metadata fault), c)
    | .ok metadata => return (.ok (), (c.fillFrom metadata).migratePassphrase)
  else return (.ok (), c.migratePassphrase)

/-! ## What is needed -/

/-- A field that must not be blank. -/
structure RequiredField where
  description : String
  key : String
  value : Auth → String

/-- The field that is always needed. -/
def vcnField : RequiredField := ⟨"cluster VCN OCID", "vcn", Auth.vcn⟩

/-- The fields that are needed unless the instance itself is the driver's user. -/
def credentialFields : List RequiredField :=
  [⟨"tenancy OCID", "tenancy", Auth.tenancy⟩,
   ⟨"user OCID", "user", Auth.user⟩,
   ⟨"API signing key", "key", Auth.key⟩,
   ⟨"API key fingerprint", "fingerprint", Auth.fingerprint⟩]

/-- The fields that the configuration must have: `vcnField` and, unless the instance itself is the driver's
    user, `credentialFields`. -/
def requiredFields (c : Config) : List RequiredField :=
  if c.useInstancePrincipals then [vcnField] else vcnField :: credentialFields

/-- Checks that the `requiredFields` are there; otherwise the first field that is blank is reported. -/
def validate (c : Config) (path : String) : Except Fault Unit :=
  match c.requiredFields.find? fun field => Blank.isBlankText (field.value c.auth) with
  | none => .ok ()
  | some field => .error (.missingField field.description field.key path)

end Config

end VolumeDriver
