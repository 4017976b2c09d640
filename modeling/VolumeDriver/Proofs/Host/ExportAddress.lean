import VolumeDriver.Controller.FileSystemExport
import VolumeDriver.Host.Nfs
import VolumeDriver.Proofs.Flow.Visits
import VolumeDriver.Proofs.Text.Cut
set_option autoImplicit false

/-! # The address in the path of an export

The path of an export is `/mnt/<address>/<file system>`. The address is read from each such path, but
not from these alone: whatever the first name is, the second one is taken for an address, and nothing
need come behind it (`IsLookalike`). From any other text none is read, and then nothing is asked of the
host. -/

namespace VolumeDriver.Host

variable {device address first rest : String}

/-! ## Paths by their first two names -/

/-- The path `device` begins with two names, and the second one is not empty. -/
structure BeginsWith (device first address rest : String) : Prop where
  path : device = "/" ++ first ++ "/" ++ address ++ rest
  first_plain : '/' ∉ first.toList
  address_plain : '/' ∉ address.toList
  address_ne : address ≠ ""
  ends : rest = "" ∨ ∃ fileSystem, rest = "/" ++ fileSystem

theorem BeginsWith.toList (h : BeginsWith device first address rest) : device.toList =
    [] ++ '/' :: (first.toList ++ '/' :: (address.toList ++ rest.toList)) := by
  rw [h.path]
  simp [String.toList_append]

theorem BeginsWith.splitAll (h : BeginsWith device first address rest) :
    ∃ pieces, Cut.splitAll '/' device.toList =
      [] :: first.toList :: address.toList :: pieces := by
  rw [h.toList, Cut.splitAll_append List.not_mem_nil, Cut.splitAll_append h.first_plain]
  rcases h.ends with rfl | ⟨fileSystem, rfl⟩
  · refine ⟨[], ?_⟩
    rw [show ("" : String).toList = [] from rfl, List.append_nil,
      Cut.splitAll_of_not_mem h.address_plain]
  · refine ⟨Cut.splitAll '/' fileSystem.toList, ?_⟩
    have hslash : ("/" ++ fileSystem).toList = '/' :: fileSystem.toList := by
      simp [String.toList_append]
    rw [hslash, Cut.splitAll_append h.address_plain]

theorem beginsWith_of_splitAll {first address : List Char} {pieces : List (List Char)}
    (h : Cut.splitAll '/' device.toList = [] :: first :: address :: pieces)
    (hne : address ≠ []) :
    ∃ rest, BeginsWith device (.ofList first) (.ofList address) rest := by
  obtain ⟨-, ⟨hnil, -⟩ | ⟨names, hdevice, hnames⟩⟩ := Cut.splitAll_eq_cons h
  · cases hnil
  obtain ⟨hfirst, ⟨hnil, -⟩ | ⟨named, rfl, hnamed⟩⟩ := Cut.splitAll_eq_cons hnames
  · cases hnil
  obtain ⟨haddress, hbehind⟩ := Cut.splitAll_eq_cons hnamed
  -- Behind the second name there is nothing, or a slash with anything behind it.
  have hends : ∃ rest : String, named = address ++ rest.toList ∧
      (rest = "" ∨ ∃ fileSystem, rest = "/" ++ fileSystem) := by
    rcases hbehind with ⟨-, rfl⟩ | ⟨after, rfl, -⟩
    · exact ⟨"", (List.append_nil _).symm, .inl rfl⟩
    · exact ⟨"/" ++ .ofList after, by simp [String.toList_append], .inr ⟨_, rfl⟩⟩
  obtain ⟨rest, rfl, hrest⟩ := hends
  refine ⟨rest, ?_, by simpa using hfirst, by simpa using haddress, by simpa using hne, hrest⟩
  rw [← String.toList_inj, hdevice]
  simp [String.toList_append]

/-- A path `BeginsWith` two names in one way. -/
theorem BeginsWith.unique {first' address' rest' : String}
    (h : BeginsWith device first address rest) (h' : BeginsWith device first' address' rest') :
    first = first' ∧ address = address' ∧ rest = rest' := by
  obtain ⟨pieces, hpieces⟩ := h.splitAll
  obtain ⟨pieces', hpieces'⟩ := h'.splitAll
  rw [hpieces] at hpieces'
  simp only [List.cons.injEq, String.toList_inj, true_and] at hpieces'
  obtain ⟨rfl, rfl, -⟩ := hpieces'
  have hdevice := h.toList
  rw [h'.toList] at hdevice
  refine ⟨rfl, rfl, String.toList_inj.1 ?_⟩
  simpa using hdevice.symm

/-- The `exportAddress` is the second name of a path, whatever the others are. -/
theorem exportAddress_eq_ok_iff :
    exportAddress device = .ok address ↔ ∃ first rest, BeginsWith device first address rest := by
  constructor
  · intro h
    unfold exportAddress at h
    split at h
    · rename_i first name pieces hpieces
      by_cases hname : name.isEmpty
      · rw [if_pos hname] at h
        cases h
      · rw [if_neg hname] at h
        cases h
        have hne : name ≠ [] := by simpa using hname
        exact ⟨_, beginsWith_of_splitAll hpieces hne⟩
    · cases h
  · rintro ⟨first, rest, h⟩
    obtain ⟨pieces, hpieces⟩ := h.splitAll
    have hname : address.toList.isEmpty = false := by
      simpa using h.address_ne
    unfold exportAddress
    simp only [hpieces, hname, String.ofList_toList]
    rfl

/-- An `exportAddress` is a name between two slashes. -/
theorem slash_not_mem_address (h : exportAddress device = .ok address) :
    address ≠ "" ∧ '/' ∉ address.toList := by
  obtain ⟨first, rest, hbegins⟩ := exportAddress_eq_ok_iff.1 h
  exact ⟨hbegins.address_ne, hbegins.address_plain⟩

/-- Where no `exportAddress` is read, the path is refused as `Fault.invalidDevicePath`. -/
theorem exportAddress_refused (h : ∀ address, exportAddress device ≠ .ok address) :
    exportAddress device =
      .error (.invalidDevicePath device "expected /mnt/<address>/<file system>") := by
  unfold exportAddress at h ⊢
  split
  · rename_i first name pieces hpieces
    rw [hpieces] at h
    by_cases hname : name.isEmpty
    · rw [if_pos hname]
      rfl
    · simp only [if_neg hname] at h
      exact absurd rfl (h _)
  · rfl

/-! ## Paths of exports, and others that are taken for such -/

/-- A path that has the layout of an export's. -/
def IsExportPath (device address : String) : Prop :=
  address ≠ "" ∧ '/' ∉ address.toList ∧
    ∃ fileSystem, fileSystem ≠ "" ∧ device = exportPath address fileSystem

/-- A path that is no `IsExportPath`, though its second name is taken for an address: its first name is
    another one, or nothing comes behind the second. -/
def IsLookalike (device address : String) : Prop :=
  ∃ first rest, BeginsWith device first address rest ∧ (first ≠ "mnt" ∨ rest = "" ∨ rest = "/")

theorem beginsWith_exportPath (hne : address ≠ "") (hplain : '/' ∉ address.toList)
    (fileSystem : String) :
    BeginsWith (exportPath address fileSystem) "mnt" address ("/" ++ fileSystem) where
  path := by
    rw [← String.toList_inj]
    simp [exportPath, String.toList_append]
  first_plain := by decide
  address_plain := hplain
  address_ne := hne
  ends := .inr ⟨fileSystem, rfl⟩

/-- An `exportPath` tells the address it is mounted from. -/
theorem exportAddress_exportPath (hempty : address ≠ "") (hslash : '/' ∉ address.toList)
    (fileSystemId : String) : exportAddress (exportPath address fileSystemId) = .ok address :=
  exportAddress_eq_ok_iff.2 ⟨_, _, beginsWith_exportPath hempty hslash fileSystemId⟩

theorem not_isExportPath_of_isLookalike (h : IsLookalike device address) (other : String) :
    ¬IsExportPath device other := by
  rintro ⟨hne, hplain, fileSystem, hsome, rfl⟩
  obtain ⟨first, rest, hbegins, hlooks⟩ := h
  obtain ⟨rfl, -, rfl⟩ := hbegins.unique (beginsWith_exportPath hne hplain fileSystem)
  -- The names are those of an export, so something is missing behind them.
  rcases hlooks with hfirst | hrest | hrest
  · exact hfirst rfl
  · rw [← String.toList_inj, String.toList_append] at hrest
    cases hrest
  · rw [← String.toList_inj, String.toList_append] at hrest
    exact hsome (String.toList_inj.1 (List.cons.inj hrest).2)

theorem isExportPath_or_isLookalike (h : BeginsWith device first address rest) :
    IsExportPath device address ∨ IsLookalike device address := by
  by_cases hlooks : first ≠ "mnt" ∨ rest = "" ∨ rest = "/"
  · exact .inr ⟨first, rest, h, hlooks⟩
  · simp only [not_or, Decidable.not_not] at hlooks
    obtain ⟨rfl, hrest, hslash⟩ := hlooks
    obtain hnil | ⟨fileSystem, rfl⟩ := h.ends
    · exact absurd hnil hrest
    · refine .inl ⟨h.address_ne, h.address_plain, fileSystem, ?_, ?_⟩
      · rintro rfl
        exact hslash rfl
      · rw [h.path, ← String.toList_inj]
        simp [exportPath, String.toList_append]

/-! ## What is mounted -/

/-- A path that `exportAddress` refuses is not mounted, and nothing is asked of the host. -/
theorem mountExport_refused {fault : Fault} (h : exportAddress device = .error fault)
    (directory : String) (options : List String) :
    mountExport directory device options = throw fault := by
  unfold mountExport
  rw [h]
  rfl

/-- The action is a look at the mounts, or the mount of `source` as an export. -/
def MountsOnly (source directory : String) (options : List String) : signature.Action → Prop
  | .operate o => o = .mounts ∨ o = .mount source directory nfsType options
  | .pause _ => False

/-- No other export is mounted by `mountExport` than that of the address in the path. -/
theorem only_mountExport (h : exportAddress device = .ok address) (directory : String)
    (options : List String) :
    Fallible.Only (MountsOnly (address ++ ":" ++ device) directory options)
      (mountExport directory device options) := by
  have hperform : ∀ o : Operation,
      MountsOnly (address ++ ":" ++ device) directory options (.operate o) →
        Fallible.Only (MountsOnly (address ++ ":" ++ device) directory options) (operate o) :=
    fun o ho => Flow.only_perform (S := signature) ho
  unfold mountExport
  simp only [h, Fallible.ofExcept, pure_bind]
  refine ((hperform .mounts (.inl rfl)).bind fun _ => Fallible.only_pure _).bind fun found => ?_
  split
  · split
    · exact Fallible.only_pure _
    · exact Fallible.only_throw _
  · exact (hperform _ (.inr rfl)).bind fun _ => Fallible.only_pure _

/-- **Which paths an address is read from.** An `exportAddress` is read from an `IsExportPath`, and from an
    `IsLookalike`; the layout decides just where there is no lookalike. From any other path an export is
    neither named nor mounted, and where an address is read the export is mounted from that one. -/
theorem address_of_export_path (device : String) :
    (∀ address, exportAddress device = .ok address ↔
      IsExportPath device address ∨ IsLookalike device address) ∧
    ((∀ address, exportAddress device = .ok address ↔ IsExportPath device address) ↔
      ∀ address, ¬IsLookalike device address) ∧
    ((∀ address, ¬IsExportPath device address ∧ ¬IsLookalike device address) →
      exportAddress device =
          .error (.invalidDevicePath device "expected /mnt/<address>/<file system>") ∧
        ∀ directory options, mountExport directory device options =
          throw (.invalidDevicePath device "expected /mnt/<address>/<file system>")) ∧
    ∀ address, IsExportPath device address ∨ IsLookalike device address →
      ∀ directory options,
        Fallible.Only (MountsOnly (address ++ ":" ++ device) directory options)
          (mountExport directory device options) := by
  have hread : ∀ address, exportAddress device = .ok address ↔
      IsExportPath device address ∨ IsLookalike device address := by
    intro address
    constructor
    · intro h
      obtain ⟨first, rest, hbegins⟩ := exportAddress_eq_ok_iff.1 h
      exact isExportPath_or_isLookalike hbegins
    · rintro (⟨hne, hplain, fileSystem, -, rfl⟩ | ⟨first, rest, hbegins, -⟩)
      · exact exportAddress_exportPath hne hplain fileSystem
      · exact exportAddress_eq_ok_iff.2 ⟨first, rest, hbegins⟩
  refine ⟨hread, ⟨?_, ?_⟩, ?_, ?_⟩
  · intro hlayout address hlooks
    have hexport := (hlayout address).1 ((hread address).2 (.inr hlooks))
    exact not_isExportPath_of_isLookalike hlooks address hexport
  · intro hnone address
    rw [hread, or_iff_left (hnone address)]
  · intro hneither
    have hnone : ∀ address, exportAddress device ≠ .ok address := fun address hok =>
      ((hread address).1 hok).elim (hneither address).1 (hneither address).2
    have hrefused := exportAddress_refused hnone
    exact ⟨hrefused, mountExport_refused hrefused⟩
  · intro address h
    exact only_mountExport ((hread address).2 h)

/-- A relative path is refused by `mountExport`, and an export is mounted from the address in its path. -/
theorem address_of_export_path_relative :
    (∀ address, ¬IsExportPath "mnt/10.0.0.8/fs" address ∧ ¬IsLookalike "mnt/10.0.0.8/fs" address) ∧
    mountExport "/mnt/a" "mnt/10.0.0.8/fs" [] =
      throw (.invalidDevicePath "mnt/10.0.0.8/fs" "expected /mnt/<address>/<file system>") ∧
    IsExportPath "/mnt/10.0.0.8/fs" "10.0.0.8" ∧
    Fallible.Only (MountsOnly "10.0.0.8:/mnt/10.0.0.8/fs" "/mnt/a" [])
      (mountExport "/mnt/a" "/mnt/10.0.0.8/fs" []) := by
  obtain ⟨hread, -, hrefused, -⟩ := address_of_export_path "mnt/10.0.0.8/fs"
  have hneither : ∀ address, ¬IsExportPath "mnt/10.0.0.8/fs" address ∧
      ¬IsLookalike "mnt/10.0.0.8/fs" address := by
    intro address
    rw [← not_or, ← hread]
    exact nofun
  have hexport : IsExportPath "/mnt/10.0.0.8/fs" "10.0.0.8" :=
    ⟨by decide, by decide, "fs", by decide, rfl⟩
  obtain ⟨-, -, -, honly⟩ := address_of_export_path "/mnt/10.0.0.8/fs"
  exact ⟨hneither, (hrefused hneither).2 "/mnt/a" [], hexport,
    honly "10.0.0.8" (.inl hexport) "/mnt/a" []⟩

/-- An address is read from the path of a device, from a path of two names and from one outside of
    `/mnt`, none of which is the path of an export. -/
theorem exportAddress_lookalikes :
    (exportAddress "/dev/disk/by-path/ip-10.0.0.2:3260-iscsi-iqn.x-lun-1" = .ok "disk" ∧
      ∀ address,
        ¬IsExportPath "/dev/disk/by-path/ip-10.0.0.2:3260-iscsi-iqn.x-lun-1" address) ∧
    (exportAddress "/mnt/10.0.0.8" = .ok "10.0.0.8" ∧
      ∀ address, ¬IsExportPath "/mnt/10.0.0.8" address) ∧
    exportAddress "/srv/10.0.0.8/fs" = .ok "10.0.0.8" ∧
      ∀ address, ¬IsExportPath "/srv/10.0.0.8/fs" address := by
  have hdevice : IsLookalike "/dev/disk/by-path/ip-10.0.0.2:3260-iscsi-iqn.x-lun-1" "disk" := by
    refine ⟨"dev", "/by-path/ip-10.0.0.2:3260-iscsi-iqn.x-lun-1", ?_, .inl (by decide)⟩
    exact ⟨rfl, by decide, by decide, by decide,
      .inr ⟨"by-path/ip-10.0.0.2:3260-iscsi-iqn.x-lun-1", rfl⟩⟩
  have hshort : IsLookalike "/mnt/10.0.0.8" "10.0.0.8" := by
    refine ⟨"mnt", "", ?_, .inr (.inl rfl)⟩
    exact ⟨rfl, by decide, by decide, by decide, .inl rfl⟩
  have houtside : IsLookalike "/srv/10.0.0.8/fs" "10.0.0.8" := by
    refine ⟨"srv", "/fs", ?_, .inl (by decide)⟩
    exact ⟨rfl, by decide, by decide, by decide, .inr ⟨"fs", rfl⟩⟩
  exact ⟨⟨by rfl, not_isExportPath_of_isLookalike hdevice⟩,
    ⟨by rfl, not_isExportPath_of_isLookalike hshort⟩, by rfl,
    not_isExportPath_of_isLookalike houtside⟩

end VolumeDriver.Host
