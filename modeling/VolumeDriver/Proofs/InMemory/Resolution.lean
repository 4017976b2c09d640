import VolumeDriver.Proofs.Controller.VnicCache
import VolumeDriver.Proofs.Files.Tree
import VolumeDriver.Proofs.InMemory.Settled
set_option autoImplicit false

/-! # Which instance a node is, in a scene

A search for a node reads the cache's file and writes it, but what is known of interfaces stays the same by
that (`World.vnicsKnown`): what is written is what was read, and what was learnt from the control plane
besides. So the scene decides which instance a node is (`Settled`). -/

namespace VolumeDriver.InMemory

open ControlPlane Controller

/-! ## The file of the cache -/

section File

variable {files : Files.Tree} {path : String} {content : List UInt8}

/-- When `openCacheIn` opens a file, it leaves one that can be opened and says the same. -/
theorem openCacheIn_again (h : (openCacheIn files path).1 = .ok content) :
    (openCacheIn (openCacheIn files path).2 path).1 = .ok content := by
  cases hopen : files.openOrCreate path with
  | error fault =>
    rw [openCacheIn, hopen] at h
    cases h
  | ok opened =>
    obtain ⟨found, opened⟩ := opened
    rw [openCacheIn, hopen] at h
    cases h
    simp only [openCacheIn, hopen, Files.Tree.openOrCreate_again hopen]

/-- A file that can be opened can be saved with `saveCacheIn`, and says what was saved then. -/
theorem openCacheIn_saved (h : (openCacheIn files path).1 = .ok content) (saved : String) :
    (openCacheIn (saveCacheIn files path saved).2 path).1 = .ok (Utf8.octets saved) := by
  cases hopen : files.openOrCreate path with
  | error fault =>
    rw [openCacheIn, hopen] at h
    cases h
  | ok opened =>
    obtain ⟨found, opened⟩ := opened
    obtain ⟨after, hwrite, hread⟩ :=
      Files.Tree.write_of_openOrCreate hopen (Utf8.octets saved)
    rw [saveCacheIn, hwrite, openCacheIn, hread]

end File

namespace World

variable {w : World} {known : String → Option Vnic}

/-- A world whose cache cannot be opened stays as it is with `openCacheIn`. -/
theorem openCacheIn_error {message : String} (h : w.vnicsKnown = .error message) :
    openCacheIn w.files w.cachePath = (.error message, w.files) := by
  rw [vnicsKnown] at h
  rw [openCacheIn] at h ⊢
  split at h
  · cases h
  · cases h
    rfl

/-- Interfaces are known (`World.vnicsKnown`) just where the cache can be opened. -/
theorem vnicsKnown_ok (h : w.vnicsKnown = .ok known) :
    ∃ content, (openCacheIn w.files w.cachePath).1 = .ok content ∧
      vnicView w.cloud.vnics (.ofContent content) = known := by
  rw [vnicsKnown] at h
  cases hopen : (openCacheIn w.files w.cachePath).1 with
  | error message =>
    rw [hopen] at h
    cases h
  | ok content =>
    rw [hopen] at h
    exact ⟨content, rfl, Except.ok.inj h⟩

/-- A cache that `openCacheIn` opens holds its share of what is known, and is known as before afterwards. -/
theorem openCacheIn_ok (h : w.vnicsKnown = .ok known) :
    ∃ content files, openCacheIn w.files w.cachePath = (.ok content, files) ∧
      vnicView w.cloud.vnics (.ofContent content) = known ∧
      ({ w with files } : World).picture = w.picture := by
  obtain ⟨content, hopen, hview⟩ := vnicsKnown_ok h
  refine ⟨content, _, Prod.ext hopen rfl, hview, ?_⟩
  have hagain : ({ w with files := (openCacheIn w.files w.cachePath).2 } : World).vnicsKnown =
      w.vnicsKnown := by
    rw [vnicsKnown, vnicsKnown, openCacheIn_again hopen, hopen]
  rw [picture, hagain]
  rfl

/-- The cache has nothing to add in `World.vnicsKnown` to what the control plane says just if it says the
    same. -/
theorem vnicsKnown_iff : w.vnicsKnown = .ok w.cloud.vnics.get? ↔
    ∃ content, (openCacheIn w.files w.cachePath).1 = .ok content ∧
      ∀ id vnic, (VnicCache.ofContent content).get? id = some vnic →
        w.cloud.vnics.get? id = some vnic := by
  rw [vnicsKnown]
  cases (openCacheIn w.files w.cachePath).1 with
  | error message =>
    constructor
    · intro h
      cases h
    · rintro ⟨content, h, -⟩
      cases h
  | ok content =>
    have hview : vnicView w.cloud.vnics (.ofContent content) = w.cloud.vnics.get? ↔
        ∀ id vnic, (VnicCache.ofContent content).get? id = some vnic →
          w.cloud.vnics.get? id = some vnic := by
      refine funext_iff.trans (forall_congr' fun id => ?_)
      rw [vnicView]
      cases (VnicCache.ofContent content).get? id with
      | none =>
        refine iff_of_true rfl fun vnic h => ?_
        cases h
      | some cached => exact ⟨fun h vnic hv => hv ▸ h.symm, fun h => (h cached rfl).symm⟩
    refine Iff.trans ⟨Except.ok.inj, congrArg Except.ok⟩ (hview.trans ?_)
    refine ⟨fun h => ⟨content, rfl, h⟩, ?_⟩
    rintro ⟨_, ⟨⟩, h⟩
    exact h

/-- To save a cache changes nothing of what is known, if it holds its share of that. -/
theorem picture_saveCacheIn {cache : VnicCache} (h : w.vnicsKnown = .ok known)
    (hcache : vnicView w.cloud.vnics cache = known) :
    ({ w with files := (saveCacheIn w.files w.cachePath cache.toContent).2 } : World).picture =
      w.picture := by
  obtain ⟨content, hopen, -⟩ := vnicsKnown_ok h
  have hknown : ({ w with files := (saveCacheIn w.files w.cachePath cache.toContent).2 } :
      World).vnicsKnown = w.vnicsKnown := by
    rw [h, ← hcache, vnicsKnown, openCacheIn_saved hopen]
    exact congrArg (fun cache => Except.ok (vnicView w.cloud.vnics cache))
      (VnicCache.ofContent_toContent cache)
  rw [picture, hknown]
  rfl

end World

/-! ## The search for a node -/

section Search

variable {α : Type} {s : Picture}

/-- A search with the cache's file, which is opened before it and saved after it. -/
def withCache (path : String) (m : Learning α) : Run ResolveFault α := do
  let content ← Fallible.wrap (.cache path)
    (.ofFlow (Flow.perform (S := signature) (.openCache path)))
  ExceptT.mk do
    let (found, cache) ← m.run (.ofContent content)
    let _ ← Flow.perform (S := signature) (.saveCache path cache.toContent)
    return found

theorem runs_openCache {path : String} {content : Except String (List UInt8)} {d d' : Disturbed}
    (h : d.control (.openCache path) = (content, d')) :
    Fallible.runs Disturbed.control (Fallible.wrap (.cache path)
      (.ofFlow (Flow.perform (S := signature) (.openCache path))) :
        Run ResolveFault (List UInt8)) d = (content.mapError (.cache path), d') := by
  refine (Fallible.runs_wrap ..).trans ?_
  exact congrArg (fun opened : Except String (List UInt8) × Disturbed =>
    (opened.1.mapError (ResolveFault.cache path), opened.2)) h

theorem runs_withCache_error {path message : String} {m : Learning α} {d d' : Disturbed}
    (h : d.control (.openCache path) = (.error message, d')) :
    Fallible.runs Disturbed.control (withCache path m) d = (.error (.cache path message), d') :=
  Fallible.runs_bind_error (runs_openCache h)

theorem runs_withCache_ok {path : String} {content : List UInt8} {m : Learning α}
    {d d' : Disturbed} (h : d.control (.openCache path) = (.ok content, d')) :
    Fallible.runs Disturbed.control (withCache path m) d =
      ((Learning.runs m (.ofContent content) d').1.1,
        ((Learning.runs m (.ofContent content) d').2.control
          (.saveCache path (Learning.runs m (.ofContent content) d').1.2.toContent)).2) := by
  refine (Fallible.runs_bind_ok (runs_openCache h)).trans ?_
  exact Flow.run_bind Disturbed.control (m.run (.ofContent content)) _ d'

theorem control_openCache {d : Disturbed} {path : String} {content : Except String (List UInt8)}
    {files : Files.Tree} (h : openCacheIn d.world.files path = (content, files)) :
    d.control (.openCache path) = (content, { d with world := { d.world with files } }) :=
  congrArg (fun opened : Except String (List UInt8) × Files.Tree =>
    (opened.1, ({ d with world := { d.world with files := opened.2 } } : Disturbed))) h

theorem picture_saveCache {d : Disturbed} {path : String} {known : String → Option Vnic}
    {cache : VnicCache} (hpath : d.world.cachePath = path) (hknown : d.world.vnicsKnown = .ok known)
    (hcache : vnicView d.world.cloud.vnics cache = known) :
    (d.control (.saveCache path cache.toContent)).2.world.picture = d.world.picture := by
  subst hpath
  exact World.picture_saveCacheIn hknown hcache

/-- A search under `withCache` leads where the search itself does, if the cache can be opened. -/
theorem leads_withCache {p : Picture} {known : String → Option Vnic} {m : Learning α}
    {r : Except ResolveFault α} (hknown : p.vnicsKnown = .ok known) (hm : LearningLeads p known m r) :
    ControllerLeads p (withCache p.cachePath m) r p (· = p) := by
  rintro d hd rfl
  obtain ⟨content, files, hopen, hcontent, hpicture⟩ := World.openCacheIn_ok hknown
  have hrun := runs_withCache_ok (m := m) (control_openCache hopen)
  obtain ⟨⟨hcalm, hsuffix, harrived⟩, hcache⟩ :=
    hm { d with world := { d.world with files } } hd hpicture (.ofContent content) hcontent
  -- The cache is saved whether or not the search was disturbed.
  have hunchanged := harrived.elim And.right fun h => h.2.2
  have hsaved := picture_saveCache (congrArg Picture.cachePath hunchanged)
    ((congrArg Picture.vnicsKnown hunchanged).trans hknown)
    (congrArg (fun p : Picture => p.cloud.vnics) hunchanged ▸ hcache)
  show Arrives d (Fallible.runs Disturbed.control (withCache d.world.cachePath m) d) r
    d.world.picture (· = d.world.picture)
  rw [hrun]
  exact ⟨hcalm, hsuffix, harrived.imp (fun h => ⟨h.1, hsaved.trans h.2⟩)
    fun h => ⟨h.1, h.2.1, hsaved.trans h.2.2⟩⟩

/-- A search under `withCache` leads where the scene says, if the search does. -/
theorem settled_withCache {m : Learning α} (hm : ∀ known, LearningSettled s known m) :
    Settled s (withCache s.cachePath m) := by
  cases hs : s.vnicsKnown with
  | error message =>
    refine ⟨.error (.cache s.cachePath message), ?_⟩
    rintro _ rfl d hd rfl
    have hopen := control_openCache (World.openCacheIn_error hs)
    have hrun := runs_withCache_error (m := m) hopen
    exact hrun ▸ ⟨hd, List.suffix_refl _, .inl ⟨rfl, rfl⟩⟩
  | ok known =>
    obtain ⟨r, hr⟩ := hm known
    refine ⟨r, ?_⟩
    rintro p rfl
    exact leads_withCache hs (hr p rfl)

theorem settled_subnetIds (limits : Limits) (scope : SearchScope) (vcnCompartmentId : String) :
    Settled s (subnetIds limits scope vcnCompartmentId) :=
  settled_foldPages (settled_throw _)
    (fun page => settled_requestNode (.listSubnets _ _ page) trivial)
    (fun _ _ => settled_pure _) _ _ _

theorem settled_runningByName (limits : Limits) (scope : SearchScope) (node : String) :
    Settled s (runningByName limits scope node) :=
  settled_foldPages (settled_throw _)
    (fun page => settled_requestNode (.listInstances _ _ page) trivial)
    (fun _ _ => settled_pure _) _ _ _

theorem settled_runningByVnic (limits : Limits) {scope : SearchScope}
    (hpath : scope.cachePath = s.cachePath) (node : String) :
    Settled s (runningByVnic limits scope node) := by
  refine (settled_requestNode (.getVcn _) trivial).bind fun vcn => ?_
  refine (settled_subnetIds limits scope _).bind fun subnets => ?_
  split
  · exact settled_throw _
  · have hsearch := settled_withCache (s := s) fun known =>
      learningSettled_searchVnics known limits scope subnets node
    rw [← hpath] at hsearch
    exact hsearch

/-- **The scene decides which instance `resolveNode` finds**, or why it finds none. -/
theorem settled_resolveNode (limits : Limits) {scope : SearchScope}
    (hpath : scope.cachePath = s.cachePath) (node : String) :
    Settled s (resolveNode limits scope node) := by
  refine (settled_runningByName limits scope node).bind fun found => ?_
  split
  · exact settled_pure _
  · refine (settled_runningByVnic limits hpath node).bind fun found => ?_
    split
    · exact settled_pure _
    · exact settled_throw _

end Search

end VolumeDriver.InMemory
