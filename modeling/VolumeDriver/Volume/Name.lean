import VolumeDriver.Text.Cut
set_option autoImplicit false

/-! # Names and identifiers of volumes

A volume is named either by its full identifier, which begins with `ocid1.`, or by the last segment of
one, the name that persistent volumes got before full identifiers were used. `volumeId` completes a
name to an identifier and leaves identifiers alone; `shortName` goes the other way. Every verb that
mentions a volume goes through `volumeId`, so a detach finds exactly what an attach made.

`StorageFamily.ofName?` says which kind of storage a name belongs to: file systems and block volumes by
their identifiers, and every name that is no identifier to block volumes. -/

namespace VolumeDriver

/-- How every identifier begins. -/
def identifierStart : String := "ocid1."

/-- How the identifiers of block volumes begin. -/
def volumeStart : String := "ocid1.volume."

/-- How the identifiers of block volumes begin in the only realm this driver serves. -/
def volumeRealmStart : String := "ocid1.volume.oc1."

/-- How the identifiers of file systems begin. -/
def fileSystemStart : String := "ocid1.filesystem."

/-- Whether the text is an identifier and not a short name: it begins with `identifierStart`. -/
def isIdentifier (name : String) : Bool :=
  Cut.startsWith name identifierStart

/-- The segment for a region in the identifiers of its volumes: the region's key, but for one region
    that uses its full name. -/
def regionSegment (regionKey : String) : String :=
  if regionKey = "fra" then "eu-frankfurt-1" else regionKey

/-- The identifier of the volume `name` in a region. -/
def volumeId (regionKey name : String) : String :=
  if isIdentifier name then name
  else volumeRealmStart ++ regionSegment regionKey ++ "." ++ name

/-- The short name of a block volume: what follows the realm (`volumeRealmStart`) and the region's segment.
    Anything else stands for itself. -/
def shortName (id : String) : String :=
  match Cut.dropPrefix? volumeRealmStart.toList id.toList with
  | none => id
  | some rest =>
    match Cut.splitFirst? ['.'] rest with
    | none => id
    | some (_, name) => String.ofList name

/-- The two kinds of storage. -/
inductive StorageFamily
  /-- block volumes, attached to an instance over iSCSI -/
  | block
  /-- file systems, exported over NFS -/
  | fileStorage
  deriving DecidableEq, Repr

/-- The `StorageFamily` that a name belongs to; `none` for identifiers of anything but storage. -/
def StorageFamily.ofName? (name : String) : Option StorageFamily :=
  if Cut.startsWith name fileSystemStart then some .fileStorage
  else if Cut.startsWith name volumeStart then some .block
  else if isIdentifier name then none
  else some .block

end VolumeDriver
