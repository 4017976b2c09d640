import VolumeDriver.Proofs.InMemory.NodeNames
set_option autoImplicit false

/-! # The cache makes no difference

What the file of the cache says of interfaces saves requests and changes nothing else. As long as it says
only what the control plane would say (`World.CacheAgrees`), it does not matter how much it says: a search
with a file that is missing or damaged comes to the same as one with a file that knows every interface. The
search in turn leaves a file of that kind. -/

namespace VolumeDriver.InMemory

open ControlPlane Controller

/-- The file of a cache can be opened, and whatever can be read in it of an interface is what the control
    plane answers to a request for that interface. -/
def World.CacheAgrees (w : World) (path : String) : Prop :=
  ∃ content, (openCacheIn w.files path).1 = .ok content ∧
    ∀ id vnic, (VnicCache.ofContent content).get? id = some vnic →
      (w.cloud.exchange (.getVnic id)).1 = .ok vnic

section Transparency

variable {w : World} {scope : SearchScope}

/-- Where nothing is made to fail, `Exchange.getVnic` is answered with the interface that there is. -/
theorem exchange_getVnic_iff (hcalm : w.Calm) {id : String} {vnic : Vnic} :
    (w.cloud.exchange (.getVnic id)).1 = .ok vnic ↔ w.cloud.vnics.get? id = some vnic := by
  have hanswer : (w.cloud.exchange (.getVnic id)).1 =
      Cloud.fetch "GetVnic" id (w.cloud.vnics.get? id) := by
    simp only [Cloud.exchange, Dictionary.Drained.pop hcalm]
    rfl
  rw [hanswer]
  cases w.cloud.vnics.get? id with
  | none => constructor <;> intro h <;> cases h
  | some found =>
    show Except.ok found = Except.ok vnic ↔ some found = some vnic
    rw [Except.ok.injEq, Option.some.injEq]

/-- A file with `World.CacheAgrees` adds nothing to what the control plane knows, so the picture of the
    world does not tell one such file from another. -/
theorem cacheAgrees_iff (hcalm : w.Calm) : w.CacheAgrees w.picture.cachePath ↔
    w.picture.vnicsKnown = .ok w.picture.cloud.vnics.get? := by
  refine Iff.trans ?_ World.vnicsKnown_iff.symm
  simp only [World.CacheAgrees, exchange_getVnic_iff hcalm]
  rfl

/-- What `resolveNode` leaves is the same picture of the world. -/
theorem picture_resolveNode (hcalm : w.Calm) (hpath : scope.cachePath = w.cachePath)
    (limits : Limits) (node : String) :
    let after := (Fallible.runs World.controlAnswer (resolveNode limits scope node) w).2
    after.Calm ∧ after.picture = w.picture := by
  intro after
  obtain ⟨r, hr⟩ : Settled w.picture.scene (resolveNode limits scope node) :=
    settled_resolveNode limits hpath node
  exact ((hr w.picture rfl).ends w hcalm rfl).2

/-- A file with `World.CacheAgrees` has it after `resolveNode` too. -/
theorem cacheAgrees_resolveNode (hcalm : w.Calm) (hpath : scope.cachePath = w.cachePath)
    (hagrees : w.CacheAgrees scope.cachePath) (limits : Limits) (node : String) :
    (Fallible.runs World.controlAnswer (resolveNode limits scope node) w).2.CacheAgrees
      scope.cachePath := by
  obtain ⟨hcalm', hpicture⟩ := picture_resolveNode hcalm hpath limits node
  rw [hpath] at hagrees ⊢
  have hknown := (cacheAgrees_iff hcalm).1 hagrees
  have hagrees' := cacheAgrees_iff hcalm'
  rw [hpicture] at hagrees'
  exact hagrees'.2 hknown

/-- **The cache is transparent.** The search for a node comes to the same instance or the same error with
    either of two files that agree with the control plane (`World.CacheAgrees`), and the file that it leaves
    agrees with the control plane again. -/
theorem resolveNode_cache_transparent {files files' : Files.Tree} (hcalm : w.Calm)
    (hpath : scope.cachePath = w.cachePath)
    (hagrees : ({ w with files } : World).CacheAgrees scope.cachePath)
    (hagrees' : ({ w with files := files' } : World).CacheAgrees scope.cachePath) (limits : Limits)
    (node : String) :
    let search := Fallible.runs World.controlAnswer (resolveNode limits scope node)
    (search { w with files }).1 = (search { w with files := files' }).1 ∧
      (search { w with files }).2.CacheAgrees scope.cachePath ∧
      (search { w with files := files' }).2.CacheAgrees scope.cachePath := by
  intro search
  refine ⟨?_, cacheAgrees_resolveNode (w := { w with files }) hcalm hpath hagrees limits node,
    cacheAgrees_resolveNode (w := { w with files := files' }) hcalm hpath hagrees' limits node⟩
  have hsame : ({ w with files := files' } : World).picture =
      ({ w with files } : World).picture := by
    rw [hpath] at hagrees hagrees'
    have hknown := (cacheAgrees_iff (w := { w with files }) hcalm).1 hagrees
    have hknown' := (cacheAgrees_iff (w := { w with files := files' }) hcalm).1 hagrees'
    exact congrArg (Picture.mk w.config w.cachePath w.cloud.unrecorded) (hknown'.trans hknown.symm)
  -- What the search comes to is up to the picture, and that is the same for both.
  obtain ⟨r, hr⟩ : Settled ({ w with files } : World).picture.scene (resolveNode limits scope node) :=
    settled_resolveNode limits hpath node
  have hleads := hr _ rfl
  have hone : (search { w with files }).1 = r := (hleads.ends { w with files } hcalm rfl).1
  have hother : (search { w with files := files' }).1 = r :=
    (hleads.ends { w with files := files' } hcalm hsame).1
  exact hone.trans hother.symm

end Transparency

/-- The file of a cache that was damaged. -/
def damagedFiles : Files.Tree :=
  (saveCacheIn {} VnicCache.fileName "\x7b\"a\":").2

theorem cacheAgrees_of_blank {w : World} {path : String} {content : List UInt8}
    (hopen : (openCacheIn w.files path).1 = .ok content)
    (hblank : VnicCache.ofContent content = .empty) : w.CacheAgrees path := by
  refine ⟨content, hopen, fun id vnic hvnic => ?_⟩
  rw [hblank] at hvnic
  cases hvnic

/-- In `workersWorld`, a file that knows one of the interfaces does as well as `damagedFiles`. -/
theorem resolveNode_cache_transparent_workersWorld :
    let search := Fallible.runs World.controlAnswer (resolveNode {} workersScope "worker-1")
    (search workersWorld).1 = (search { workersWorld with files := damagedFiles }).1 ∧
      (search workersWorld).2.CacheAgrees VnicCache.fileName ∧
      (search { workersWorld with files := damagedFiles }).2.CacheAgrees VnicCache.fileName := by
  have hagrees : workersWorld.CacheAgrees VnicCache.fileName := by
    have hcalm := searchable_workersWorld.calm
    exact (cacheAgrees_iff hcalm).2 searchable_workersWorld.vnicsKnown
  have hagrees' : ({ workersWorld with files := damagedFiles } : World).CacheAgrees
      VnicCache.fileName :=
    cacheAgrees_of_blank rfl (by decide +kernel)
  have hpath : workersScope.cachePath = workersWorld.cachePath := rfl
  exact resolveNode_cache_transparent (w := workersWorld) searchable_workersWorld.calm hpath hagrees
    hagrees' {} "worker-1"

end VolumeDriver.InMemory
