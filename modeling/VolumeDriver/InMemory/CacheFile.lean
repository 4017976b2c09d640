import VolumeDriver.Controller.VnicCache
import VolumeDriver.Files.Tree
set_option autoImplicit false

/-! # A cache file in use

A cache is opened, which locks its file and reads it; it is then asked and added to in memory; and when it is
closed its file is replaced by what it holds, and unlocked. Only the first closing after an opening does so: a
closed cache still answers, but what it learns then is not kept. The lock is between caches alone, and others
may read and write the file meanwhile. `CacheFile.step` is one step of all this by one who never holds two
caches of the file. -/

namespace VolumeDriver.InMemory

/-! ## The file alone -/

/-- Opens the file of a cache with `Files.Tree.openOrCreate`, so it is made if it is not there. Faults are
    told in words. -/
def openCacheIn (files : Files.Tree) (path : String) : Except String (List UInt8) × Files.Tree :=
  match files.openOrCreate path with
  | .ok (content, files) => (.ok content, files)
  | .error fault => (.error fault.message, files)

/-- Replaces the content of the file of a cache. Faults are told in words. -/
def saveCacheIn (files : Files.Tree) (path content : String) : Except String Unit × Files.Tree :=
  match files.write path (Utf8.octets content) with
  | .ok files => (.ok (), files)
  | .error fault => (.error fault.message, files)

/-! ## The file in use -/

/-- A `VnicCache` in memory. -/
structure CacheInUse where
  entries : VnicCache
  /-- whether closing will write the file -/
  isOpen : Bool
  deriving DecidableEq

/-- The file of a cache among other files, and the cache in memory if there is one. -/
structure CacheFile where
  path : String
  files : Files.Tree
  cache : Option CacheInUse := none

/-- A step with a cache or its file. -/
inductive CacheStep
  /-- opens the cache. In the program an opening waits for the file's lock for as long as a cache of it is
      open, so with one in memory this step stands for `drop` and then opening -/
  | openCache
  | get (id : String)
  | set (id : String) (vnic : Vnic)
  | size
  | close
  /-- closes the cache and forgets it -/
  | drop
  /-- reads the file, without the cache -/
  | read
  /-- replaces the file, without the cache -/
  | write (content : List UInt8)
  deriving DecidableEq

/-- What each step brings. Opening and `set` bring the number of entries. -/
def CacheStep.Answer : CacheStep → Type
  | openCache => Except Files.Fault Nat
  | get _ => Option Vnic
  | set _ _ | size => Nat
  | close | drop => Except Files.Fault Unit
  | read => Except Files.Fault (List UInt8)
  | write _ => Except Files.Fault Unit

namespace CacheFile

/-- What is known in memory. -/
def entries (f : CacheFile) : VnicCache :=
  match f.cache with
  | some cache => cache.entries
  | none => .empty

/-- Replaces the content of the file, by `Files.Tree.write`. -/
def replace (f : CacheFile) (content : List UInt8) : Except Files.Fault Unit × CacheFile :=
  match f.files.write f.path content with
  | .ok files => (.ok (), { f with files })
  | .error fault => (.error fault, f)

/-- Closes the cache. -/
def close (f : CacheFile) : Except Files.Fault Unit × CacheFile :=
  match f.cache with
  | some ⟨entries, true⟩ =>
    { f with cache := some ⟨entries, false⟩ }.replace (Utf8.octets entries.toContent)
  | _ => (.ok (), f)

/-- Closes the cache (`close`) and forgets it. -/
def drop (f : CacheFile) : Except Files.Fault Unit × CacheFile :=
  let (result, f) := f.close
  (result, { f with cache := none })

/-- Opens the cache, after a `drop` of the one in memory: in the program an opening with that one still open
    would wait for the file's lock and never answer. -/
def openCache (f : CacheFile) : Except Files.Fault Nat × CacheFile :=
  let f := f.drop.2
  match f.files.openOrCreate f.path with
  | .error fault => (.error fault, f)
  | .ok (content, files) =>
    let entries := VnicCache.ofContent content
    (.ok entries.size, { f with files, cache := some ⟨entries, true⟩ })

/-- Adds to the cache. -/
def set (f : CacheFile) (id : String) (vnic : Vnic) : CacheFile :=
  { f with cache := f.cache.map fun c => { c with entries := c.entries.insert id vnic } }

/-- Takes a `CacheStep`. -/
def step (f : CacheFile) : (s : CacheStep) → s.Answer × CacheFile
  | .openCache => f.openCache
  | .get id => (f.entries.get? id, f)
  | .set id vnic => ((f.set id vnic).entries.size, f.set id vnic)
  | .size => (f.entries.size, f)
  | .close => f.close
  | .drop => f.drop
  | .read => (f.files.read f.path, f)
  | .write content => f.replace content

end CacheFile

end VolumeDriver.InMemory
