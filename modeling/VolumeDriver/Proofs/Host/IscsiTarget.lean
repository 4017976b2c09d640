import VolumeDriver.Host.IscsiTarget
import VolumeDriver.Proofs.Text.Ipv4
set_option autoImplicit false

/-! # Device paths written and read

The path of a target's device spells the target, whatever marks the target's name holds: the portal in
front of it has no mark in it, and behind the number of the logical unit there is none either.

It is not the only path that does. The directory may be left out, and the two numbers may have a plus
sign and zeros in front of them; `IscsiTarget.spelt` writes all the paths that are read as a target. -/

namespace VolumeDriver

namespace IscsiTarget

/-! ## How a path is spelt -/

/-- How the path of a target's device is spelt: whether the directory is there, and what stands in front of
    the numbers. -/
structure Spelling where
  /-- whether the directory stands in front of the name -/
  inDirectory : Bool
  port : Numeral.Spelling
  lun : Numeral.Spelling
  deriving DecidableEq

/-- The `Spelling` of the device that appears with a login. -/
def Spelling.plain : Spelling := ⟨true, .plain, .plain⟩

/-- The name of a target's device, with its numbers in a `Numeral.Spelling`. -/
def speltName (t : IscsiTarget) (port lun : Numeral.Spelling) : List Char :=
  nameStart.toList ++ ((t.ip.toChars ++ ([':'] ++ port.text t.port.toNat)) ++
    (iscsiMark.toList ++ (t.iqn.toList ++ (lunMark.toList ++ lun.text t.lun.toNat))))

/-- The path of a target's device in a `Spelling`. -/
def spelt (t : IscsiTarget) (x : Spelling) : String :=
  (if x.inDirectory then directory else "") ++ String.ofList (t.speltName x.port x.lun)

theorem deviceName_eq (t : IscsiTarget) :
    t.deviceName = String.ofList (t.speltName .plain .plain) := by
  have hplain (n : Nat) : Numeral.Spelling.plain.text n = Numeral.decimal n := rfl
  simp [← String.toList_inj, deviceName, portal, speltName, String.toList_append, hplain]

theorem devicePath_eq (t : IscsiTarget) : t.devicePath = t.spelt .plain := by
  rw [devicePath, deviceName_eq]
  rfl

section

variable {t : IscsiTarget} {port lun port' lun' : Numeral.Spelling} {x y : Spelling}

theorem mark_not_mem_portal (t : IscsiTarget) (port : Numeral.Spelling) :
    '-' ∉ t.ip.toChars ++ ([':'] ++ port.text t.port.toNat) := by
  simp [Ipv4.not_mem_toChars, Numeral.Spelling.not_mem_text]

/-- The portal is followed by the first `iscsiMark`. -/
theorem splitFirst?_iscsiMark (t : IscsiTarget) (port : Numeral.Spelling) (rest : List Char) :
    Cut.splitFirst? iscsiMark.toList
        ((t.ip.toChars ++ ([':'] ++ port.text t.port.toNat)) ++ (iscsiMark.toList ++ rest)) =
      some (t.ip.toChars ++ ([':'] ++ port.text t.port.toNat), rest) := by
  have hmark : iscsiMark.toList = '-' :: ['i', 's', 'c', 's', 'i', '-'] := by decide
  rw [hmark]
  exact Cut.splitFirst?_append (mark_not_mem_portal t port)

/-- No two spellings of one target are one `speltName`. -/
theorem speltName_inj : t.speltName port lun = t.speltName port' lun' ↔ port = port' ∧ lun = lun' := by
  constructor
  · intro h
    have hrest := List.append_cancel_left h
    have hsplit := splitFirst?_iscsiMark t port (t.iqn.toList ++ (lunMark.toList ++ lun.text t.lun.toNat))
    rw [hrest, splitFirst?_iscsiMark] at hsplit
    obtain ⟨hport, hlun⟩ := Prod.mk.inj (Option.some.inj hsplit)
    constructor
    · have htext := List.append_cancel_left (List.append_cancel_left hport)
      exact (Numeral.Spelling.text_inj.1 htext).1.symm
    · have htext := List.append_cancel_left (List.append_cancel_left hlun)
      exact (Numeral.Spelling.text_inj.1 htext).1.symm
  · rintro ⟨rfl, rfl⟩
    rfl

theorem toList_spelt (t : IscsiTarget) (x : Spelling) :
    (t.spelt x).toList =
      (if x.inDirectory then directory.toList else []) ++ t.speltName x.port x.lun := by
  unfold spelt
  cases x.inDirectory <;> simp [String.toList_append]

/-- The `directory` can be taken off a path where it stands, for no name begins with it. -/
theorem dropPrefix?_directory (t : IscsiTarget) (x : Spelling) :
    Cut.dropPrefix? directory.toList (t.spelt x).toList =
      if x.inDirectory then some (t.speltName x.port x.lun) else none := by
  obtain ⟨inDirectory, port, lun⟩ := x
  cases inDirectory with
  | true => simp [spelt, String.toList_append]
  | false =>
    have hdirectory : directory.toList = '/' :: directory.toList.tail := by decide
    have hname : nameStart.toList = 'i' :: ['p', '-'] := by decide
    rw [spelt, if_neg Bool.false_ne_true, String.empty_append, String.toList_ofList, hdirectory, speltName,
      hname]
    exact Cut.dropPrefix?_cons_ne (by decide) _ _

/-- No two spellings of one target are one path `spelt` so. -/
theorem spelt_inj : t.spelt x = t.spelt y ↔ x = y := by
  constructor
  · intro h
    have hdirectory : x.inDirectory = y.inDirectory := by
      have hdrop := congrArg Option.isSome (dropPrefix?_directory t x)
      rw [h, dropPrefix?_directory] at hdrop
      cases hx : x.inDirectory <;> cases hy : y.inDirectory <;> simp_all
    have hnames := congrArg String.toList h
    rw [toList_spelt, toList_spelt, hdirectory] at hnames
    obtain ⟨hport, hlun⟩ := speltName_inj.1 (List.append_cancel_left hnames)
    cases x
    cases y
    simp_all
  · rintro rfl
    rfl

end

/-! ## Reading -/

theorem word?_eq_some_iff {s : List Char} {n : UInt16} :
    word? s = some n ↔ ∃ x : Numeral.Spelling, s = x.text n.toNat := by
  unfold word?
  constructor
  · intro h
    obtain ⟨m, hm, rfl⟩ := Option.map_eq_some_iff.1 h
    obtain ⟨hle, x, rfl⟩ := Numeral.parse?_eq_some_iff.1 hm
    refine ⟨x, ?_⟩
    rw [UInt16.toNat_ofNat', Nat.mod_eq_of_lt (Nat.lt_succ_of_le hle)]
  · rintro ⟨x, rfl⟩
    have hread : Numeral.parse? 65535 (x.text n.toNat) = some n.toNat :=
      Numeral.parse?_eq_some_iff.2 ⟨Nat.le_of_lt_succ n.toNat_lt, x, rfl⟩
    rw [hread, Option.map_some, UInt16.ofNat_toNat]

/-- Behind the number of a unit there is no `lunMark` any more. -/
theorem splitLast?_lunMark (iqn : List Char) {digits : List Char} (hmark : '-' ∉ digits)
    (hl : 'l' ∉ digits) :
    Cut.splitLast? lunMark.toList (iqn ++ (lunMark.toList ++ digits)) = some (iqn, digits) := by
  have hlunMark : lunMark.toList = ['-', 'l', 'u', 'n', '-'] := by decide
  have hnone : Cut.splitLast? ['-', 'l', 'u', 'n', '-'] digits = none := Cut.splitLast?_eq_none hmark
  rw [hlunMark]
  refine Cut.splitLast?_append _ ?_
  -- The last character of the mark is its first one too, but what follows there is a digit.
  have hdrop : Cut.dropPrefix? ['-', 'l', 'u', 'n', '-'] ('-' :: digits) = none := by
    rw [Cut.dropPrefix?, if_pos rfl]
    cases digits with
    | nil => rfl
    | cons d rest => exact Cut.dropPrefix?_cons_ne (List.ne_of_not_mem_cons hl) _ _
  simp [Cut.splitLast?, hnone, hdrop, Cut.dropPrefix?_cons_ne]

section

variable {t : IscsiTarget} {device : String}

/-- What `ofDeviceName` reads off a `speltName` is its target, however the numbers are spelt. -/
theorem ofDeviceName_speltName (h : t.iqn ≠ "") (port lun : Numeral.Spelling) :
    ofDeviceName (t.speltName port lun) = .ok t := by
  have hport : Cut.splitLast? [':'] ([] ++ port.text t.port.toNat) = none :=
    Cut.splitLast?_eq_none (Numeral.Spelling.not_mem_text (by decide) (by decide) _ _)
  have hlun : Cut.splitLast? lunMark.toList
      (t.iqn.toList ++ (lunMark.toList ++ lun.text t.lun.toNat)) =
        some (t.iqn.toList, lun.text t.lun.toNat) :=
    splitLast?_lunMark t.iqn.toList (Numeral.Spelling.not_mem_text (by decide) (by decide) _ _)
      (Numeral.Spelling.not_mem_text (by decide) (by decide) _ _)
  have hiqn : t.iqn.toList.isEmpty = false := by
    simpa using h
  -- The target's name is free to hold the first mark and the last one: the portal in front of it cannot
  -- hold the one, and the number behind it not the other.
  rw [ofDeviceName, speltName, Cut.dropPrefix?_append]
  simp only [orFault, bind, Except.bind]
  rw [splitFirst?_iscsiMark]
  simp only [Cut.splitLast?_append _ hport, hlun, hiqn, Ipv4.parse?_toChars,
    word?_eq_some_iff.2 ⟨_, rfl⟩, String.ofList_toList]
  rfl

/-- What `orFault` reads goes on where it is there. -/
theorem some_of_orFault {α β : Type} {fault : Fault} {x : Option α} {f : α → Except Fault β} {b : β}
    (h : (orFault fault x >>= f) = .ok b) : ∃ a, x = some a ∧ f a = .ok b := by
  cases x with
  | none => cases h
  | some a => exact ⟨a, rfl, h⟩

/-- A name that `ofDeviceName` reads as a target is a `speltName` of it. -/
theorem eq_speltName_of_ofDeviceName {name : List Char} (h : ofDeviceName name = .ok t) :
    t.iqn ≠ "" ∧ ∃ port lun, name = t.speltName port lun := by
  unfold ofDeviceName at h
  obtain ⟨rest, hrest, h⟩ := some_of_orFault h
  obtain ⟨⟨portal, rest'⟩, hfirst, h⟩ := some_of_orFault h
  obtain ⟨⟨ip, port⟩, hportal, h⟩ := some_of_orFault h
  obtain ⟨⟨iqn, lun⟩, hlast, h⟩ := some_of_orFault h
  by_cases hiqn : iqn.isEmpty
  · simp only [if_pos hiqn] at h
    cases h
  · simp only [if_neg hiqn] at h
    obtain ⟨ip', hip, h⟩ := some_of_orFault h
    obtain ⟨port', hport, h⟩ := some_of_orFault h
    obtain ⟨lun', hlun, h⟩ := some_of_orFault h
    cases h
    obtain ⟨x, rfl⟩ := word?_eq_some_iff.1 hport
    obtain ⟨y, rfl⟩ := word?_eq_some_iff.1 hlun
    obtain rfl := Ipv4.parse?_eq_some_iff.1 hip
    refine ⟨by simpa using hiqn, x, y, ?_⟩
    rw [Cut.dropPrefix?_eq_some_iff.1 hrest, Cut.eq_append_of_splitFirst? hfirst,
      Cut.eq_append_of_splitLast? hportal, Cut.eq_append_of_splitLast? hlast, speltName,
      String.toList_ofList]

/-- **A target is read from the spellings of its device (`spelt`) and from nothing else.** -/
theorem ofDevicePath_eq_ok_iff : ofDevicePath device = .ok t ↔ t.iqn ≠ "" ∧ ∃ x, device = t.spelt x := by
  unfold ofDevicePath
  constructor
  · intro h
    obtain ⟨hiqn, port, lun, hname⟩ := eq_speltName_of_ofDeviceName h
    refine ⟨hiqn, ?_⟩
    cases hdrop : Cut.dropPrefix? directory.toList device.toList with
    | none =>
      rw [hdrop, Option.getD_none] at hname
      exact ⟨⟨false, port, lun⟩, by rw [← String.toList_inj, toList_spelt, hname]; rfl⟩
    | some name =>
      rw [hdrop, Option.getD_some] at hname
      have hdevice := Cut.dropPrefix?_eq_some_iff.1 hdrop
      exact ⟨⟨true, port, lun⟩, by rw [← String.toList_inj, toList_spelt, hdevice, hname]; rfl⟩
  · rintro ⟨hiqn, x, rfl⟩
    rw [dropPrefix?_directory]
    cases hx : x.inDirectory with
    | true => exact ofDeviceName_speltName hiqn x.port x.lun
    | false =>
      rw [if_neg Bool.false_ne_true, Option.getD_none, toList_spelt, hx]
      exact ofDeviceName_speltName hiqn x.port x.lun

/-- **A `devicePath` spells its target.** -/
theorem ofDevicePath_devicePath (h : t.iqn ≠ "") : ofDevicePath t.devicePath = .ok t :=
  ofDevicePath_eq_ok_iff.2 ⟨h, .plain, devicePath_eq t⟩

/-- A target that `ofDevicePath` reads off a device has a name. -/
theorem iqn_ne_empty (h : ofDevicePath device = .ok t) : t.iqn ≠ "" :=
  (ofDevicePath_eq_ok_iff.1 h).1

end

end IscsiTarget

end VolumeDriver
