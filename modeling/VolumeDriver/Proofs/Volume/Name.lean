import VolumeDriver.Proofs.Driver.Route
import VolumeDriver.Proofs.Text.Cut
import VolumeDriver.Volume.Name
set_option autoImplicit false

/-! # A volume by either of its names

What is done to a volume by its short name and what is done by its identifier must meet. Completing a
name is settled at once (`volumeId_volumeId`), keeps volumes apart (`volumeId_injective`) and does not
change which driver answers (`ofName?_volumeId`). The way back is there as long as no region's segment
has a dot in it (`shortName_volumeId_iff`). -/

namespace VolumeDriver

variable {regionKey name other : String}

theorem startsWith_iff {s pattern : String} :
    Cut.startsWith s pattern ↔ pattern.toList <+: s.toList :=
  Cut.isSome_dropPrefix?

/-! ## Identifiers -/

/-- What `volumeId` completes a short name to: the realm, the region's segment and the name. -/
theorem volumeId_of_shortName (h : isIdentifier name = false) : (volumeId regionKey name).toList =
    volumeRealmStart.toList ++ ((regionSegment regionKey).toList ++ '.' :: name.toList) := by
  unfold volumeId
  simp [h, String.toList_append]

theorem volumeId_of_identifier (h : isIdentifier name = true) : volumeId regionKey name = name := by
  unfold volumeId
  simp [h]

theorem volumeStart_begins (h : isIdentifier name = false) :
    volumeStart.toList <+: (volumeId regionKey name).toList := by
  have hrealm : volumeStart.toList <+: volumeRealmStart.toList := by decide
  rw [volumeId_of_shortName h]
  exact hrealm.trans (List.prefix_append _ _)

/-- Whatever `volumeId` has completed is an identifier then. -/
theorem isIdentifier_volumeId (regionKey name : String) :
    isIdentifier (volumeId regionKey name) = true := by
  cases h : isIdentifier name with
  | true => rwa [volumeId_of_identifier h]
  | false =>
    have hstart : identifierStart.toList <+: volumeStart.toList := by decide
    exact startsWith_iff.2 (hstart.trans (volumeStart_begins h))

/-- What `volumeId` has completed is not completed any further, in whatever region. -/
theorem volumeId_volumeId (regionKey regionKey' name : String) :
    volumeId regionKey' (volumeId regionKey name) = volumeId regionKey name :=
  volumeId_of_identifier (isIdentifier_volumeId regionKey name)

/-- Different short names stand for different volumes: `volumeId` keeps them apart. -/
theorem volumeId_injective (hname : isIdentifier name = false) (hother : isIdentifier other = false)
    (h : volumeId regionKey name = volumeId regionKey other) : name = other := by
  have hlists := congrArg String.toList h
  rw [volumeId_of_shortName hname, volumeId_of_shortName hother] at hlists
  have hrest := List.append_cancel_left (List.append_cancel_left hlists)
  exact String.toList_inj.1 (List.cons.inj hrest).2

/-! ## Drivers -/

/-- A name that is no identifier (`isIdentifier`) begins like no kind of identifier. -/
theorem startsWith_eq_false {pattern : String} (hpattern : identifierStart.toList <+: pattern.toList)
    (h : isIdentifier name = false) : Cut.startsWith name pattern = false := by
  rw [Bool.eq_false_iff] at h ⊢
  intro hstarts
  exact h (startsWith_iff.2 (hpattern.trans (startsWith_iff.1 hstarts)))

/-- Short names are left to block volumes by `StorageFamily.ofName?`. -/
theorem ofName?_of_shortName (h : isIdentifier name = false) :
    StorageFamily.ofName? name = some .block := by
  have hfileSystem : Cut.startsWith name fileSystemStart = false :=
    startsWith_eq_false (by decide) h
  have hvolume : Cut.startsWith name volumeStart = false := startsWith_eq_false (by decide) h
  unfold StorageFamily.ofName?
  simp [hfileSystem, hvolume, h]

/-- A name and its identifier belong to the same kind of storage: `StorageFamily.ofName?` does not tell them
    apart. -/
theorem ofName?_volumeId (regionKey name : String) :
    StorageFamily.ofName? (volumeId regionKey name) = StorageFamily.ofName? name := by
  cases h : isIdentifier name with
  | true => rw [volumeId_of_identifier h]
  | false =>
    have hvolume : Cut.startsWith (volumeId regionKey name) volumeStart = true :=
      startsWith_iff.2 (volumeStart_begins h)
    have hfileSystem : Cut.startsWith (volumeId regionKey name) fileSystemStart = false := by
      rw [Bool.eq_false_iff]
      intro hstarts
      -- Of two beginnings of one text the one begins with the other.
      rcases List.prefix_or_prefix_of_prefix (startsWith_iff.1 hstarts) (volumeStart_begins h) with
        hlonger | hshorter
      · exact absurd hlonger (by decide)
      · exact absurd hshorter (by decide)
    rw [ofName?_of_shortName h]
    unfold StorageFamily.ofName?
    simp [hvolume, hfileSystem]

theorem claimed_volumeId (regionKey name : String) :
    Route.claimed (volumeId regionKey name) = Route.claimed name := by
  cases h : isIdentifier name with
  | true => rw [volumeId_of_identifier h]
  | false =>
    unfold Route.claimed
    rw [ofName?_volumeId, ofName?_of_shortName h]

/-- The program that goes by volumes (`Route.claim`) chooses one driver for a name and its identifier. -/
theorem select_volumeId {callOut callOut' : CallOut} (h : callOut.volumeName? = some name)
    (h' : callOut'.volumeName? = some (volumeId regionKey name)) :
    Route.claim.select callOut' = Route.claim.select callOut := by
  rw [select_claim (verb_ne_of_name h), select_claim (verb_ne_of_name h'), claimedBy, claimedBy]
  simp only [h, h', claimed_volumeId]

/-! ## Short names -/

/-- **A short name is got back by `shortName` just if the region's segment has no dot in it.** -/
theorem shortName_volumeId_iff (h : isIdentifier name = false) :
    shortName (volumeId regionKey name) = name ↔ '.' ∉ (regionSegment regionKey).toList := by
  unfold shortName
  rw [volumeId_of_shortName h, Cut.dropPrefix?_append]
  constructor
  · intro hback hdot
    -- The name that is got is longer by the end of the segment.
    obtain ⟨before, after, hsegment, hbefore⟩ := List.eq_append_cons_of_mem hdot
    have hcut : (regionSegment regionKey).toList ++ '.' :: name.toList =
        before ++ (['.'] ++ (after ++ '.' :: name.toList)) := by
      simp [hsegment]
    simp only [hcut, Cut.splitFirst?_append hbefore] at hback
    have hlength := congrArg (fun s => s.toList.length) hback
    simp at hlength
    omega
  · intro hdot
    have hcut : Cut.splitFirst? ['.'] ((regionSegment regionKey).toList ++ '.' :: name.toList) =
        some ((regionSegment regionKey).toList, name.toList) := Cut.splitFirst?_append hdot
    simp only [hcut, String.ofList_toList]

/-! ## Both names -/

/-- **A volume goes by either of its names.** A name that `volumeId` has completed stays as it is in every
    region and belongs to the same kind of storage, so that all call-outs that carry the name or its
    identifier are answered by the same driver (`Route.select`). Short names are told apart by their
    identifiers, and `shortName` gets them back from these just where the region's segment has no dot in
    it. -/
theorem volume_by_either_name :
    (∀ regionKey regionKey' name,
      volumeId regionKey' (volumeId regionKey name) = volumeId regionKey name) ∧
    (∀ regionKey name,
      StorageFamily.ofName? (volumeId regionKey name) = StorageFamily.ofName? name) ∧
    (∀ regionKey name (callOut callOut' : CallOut), callOut.volumeName? = some name →
      callOut'.volumeName? = some (volumeId regionKey name) →
      Route.claim.select callOut' = Route.claim.select callOut) ∧
    (∀ regionKey name other, isIdentifier name = false → isIdentifier other = false →
      volumeId regionKey name = volumeId regionKey other → name = other) ∧
    ∀ regionKey,
      (∀ name, isIdentifier name = false → shortName (volumeId regionKey name) = name) ↔
        '.' ∉ (regionSegment regionKey).toList := by
  refine ⟨volumeId_volumeId, ofName?_volumeId, fun _ _ _ _ => select_volumeId,
    fun _ _ _ => volumeId_injective, fun regionKey => ?_⟩
  constructor
  · intro h
    have hempty : isIdentifier "" = false := by decide
    exact (shortName_volumeId_iff hempty).1 (h "" hempty)
  · intro hdot name hname
    exact (shortName_volumeId_iff hname).2 hdot

/-- An attach by a name with a dot and a detach by its identifier, in the region that has a segment of
    its own. -/
theorem volume_by_either_name_dotted :
    let attach : CallOut := .attach ⟨.ofList [(Options.volumeNameKey, "pvc.1")]⟩ "node"
    let detach : CallOut := .detach "ocid1.volume.oc1.eu-frankfurt-1.pvc.1" "node"
    attach.volumeName? = some "pvc.1" ∧ detach.volumeName? = some (volumeId "fra" "pvc.1") ∧
      Route.claim.select detach = Route.claim.select attach ∧
      isIdentifier "pvc.1" = false ∧ isIdentifier "ocid1" = false ∧
      volumeId "fra" "pvc.1" ≠ volumeId "fra" "ocid1" ∧
      '.' ∉ (regionSegment "fra").toList ∧ shortName (volumeId "fra" "pvc.1") = "pvc.1" := by
  intro attach detach
  have hattach : attach.volumeName? = some "pvc.1" := by decide
  have hdetach : detach.volumeName? = some (volumeId "fra" "pvc.1") := by decide
  have hname : isIdentifier "pvc.1" = false := by decide
  have hother : isIdentifier "ocid1" = false := by decide
  have hdot : '.' ∉ (regionSegment "fra").toList := by decide
  obtain ⟨-, -, hselect, hinjective, hshort⟩ := volume_by_either_name
  refine ⟨hattach, hdetach, hselect "fra" "pvc.1" attach detach hattach hdetach, hname, hother, ?_,
    hdot, (hshort "fra").2 hdot "pvc.1" hname⟩
  intro h
  exact absurd (hinjective "fra" "pvc.1" "ocid1" hname hother h) (by decide)

end VolumeDriver
