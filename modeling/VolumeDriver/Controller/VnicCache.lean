import VolumeDriver.Resource.Codec
import VolumeDriver.Text.Blank
set_option autoImplicit false

/-! # The cache of network interfaces

What the driver has learnt about network interfaces, its `VnicCache`, is kept in a file, one JSON object
with the interfaces by their identifiers. A file that is empty or damaged stands for an empty cache, for the
cache can always be filled again. -/

namespace VolumeDriver

/-- Interfaces by their identifiers. -/
abbrev VnicCache : Type := Dictionary Vnic

namespace VnicCache

/-- The usual name of the file. -/
def fileName : String := "nodenamecache.json"

/-- The cache as JSON. -/
def codec : Json.Codec VnicCache :=
  .dictionary Vnic.codec

/-- The cache that a file holds. -/
def ofContent (content : List UInt8) : VnicCache :=
  match Utf8.decode content with
  | .error _ => .empty
  | .ok text =>
    if text.all Blank.isBlank then .empty
    else
      match codec.decode content with
      | .ok cache => cache
      | .error _ => .empty

/-- What the file of a cache holds. -/
def toContent (cache : VnicCache) : String :=
  codec.encode cache

end VnicCache

end VolumeDriver
