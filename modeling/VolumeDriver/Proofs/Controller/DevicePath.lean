import VolumeDriver.Controller.Attachment
import VolumeDriver.Proofs.Host.IscsiTarget
set_option autoImplicit false

/-! # The device that an attachment makes appear

An attach answers with the path of a device, and a mount reads the target off that path again. Both ends
know the target of the attachment only if the control plane told its address, port and name
(`VolumeAttachment.target_eq_ok_iff`); then the path leads from the one to the other and back. -/

namespace VolumeDriver

/-- Four numbers below 256 in decimal, with dots between them, as `Ipv4.toChars` writes an address. -/
def IsDottedQuad (address : String) : Prop :=
  ∃ a b c d : UInt8,
    address = toString a ++ "." ++ toString b ++ "." ++ toString c ++ "." ++ toString d

theorem ofList_toChars (ip : Ipv4) : String.ofList ip.toChars =
    toString ip.a ++ "." ++ toString ip.b ++ "." ++ toString ip.c ++ "." ++ toString ip.d := by
  have hwrite : ∀ n : UInt8, String.ofList (Numeral.decimal n.toNat) = toString n := by
    intro n
    rw [Numeral.decimal_eq_toDigits]
    rfl
  rw [← hwrite, ← hwrite, ← hwrite, ← hwrite, ← String.toList_inj]
  simp [Ipv4.toChars_eq, String.toList_append]

/-- What `Ipv4.toChars` writes is an `IsDottedQuad`, and nothing else is. -/
theorem isDottedQuad_iff {address : String} :
    IsDottedQuad address ↔ ∃ ip : Ipv4, String.ofList ip.toChars = address := by
  constructor
  · rintro ⟨a, b, c, d, rfl⟩
    exact ⟨⟨a, b, c, d⟩, ofList_toChars _⟩
  · rintro ⟨ip, rfl⟩
    exact ⟨ip.a, ip.b, ip.c, ip.d, ofList_toChars ip⟩

namespace VolumeAttachment

variable {a : VolumeAttachment} {t : IscsiTarget} {device : String}

/-- An attachment has a `VolumeAttachment.target` just if the attachment tells the target's address, port
    and name. -/
theorem target_eq_ok_iff : a.target = .ok t ↔
    a.ipv4 = some (String.ofList t.ip.toChars) ∧ a.port = some t.port ∧
      (a.iqn = some t.iqn ∧ t.iqn ≠ "") ∧ t.lun = IscsiTarget.defaultLun := by
  obtain ⟨ip, port, iqn, lun⟩ := t
  have haddress : ∀ address : String, address = String.ofList ip.toChars ↔
      Ipv4.parse? address.toList = some ip := by
    intro address
    rw [Ipv4.parse?_eq_some_iff, ← String.toList_inj, String.toList_ofList]
  have hname : a.iqn = some iqn ∧ iqn ≠ "" ↔ a.iqn.filter (· ≠ "") = some iqn := by
    rw [Option.filter_eq_some_iff, decide_eq_true_iff]
  rw [hname]
  simp only [target, bind, Except.bind]
  -- The fields are asked for one after the other, and each of them may be what is missing.
  cases a.ipv4 with
  | none => simp
  | some address =>
    rw [Option.some.injEq, haddress]
    dsimp only
    cases Ipv4.parse? address.toList with
    | none => simp
    | some found =>
      cases a.port with
      | none => simp
      | some port =>
        cases a.iqn.filter (· ≠ "") with
        | none => simp
        | some iqn => simp [pure, Except.pure, eq_comm]

theorem devicePath_eq_ok_iff : a.devicePath = .ok device ↔
    ∃ t, a.target = .ok t ∧ device = t.devicePath := by
  rw [devicePath]
  cases a.target with
  | error fault => simp [bind, Except.bind]
  | ok t => simp [bind, Except.bind, pure, Except.pure, eq_comm]

/-- The target of an attachment is what `IscsiTarget.ofDevicePath` reads off its device. -/
theorem ofDevicePath_devicePath (h : a.devicePath = .ok device) :
    ∃ t, IscsiTarget.ofDevicePath device = .ok t ∧ a.target = .ok t := by
  obtain ⟨t, htarget, rfl⟩ := devicePath_eq_ok_iff.1 h
  have hname : t.iqn ≠ "" := (target_eq_ok_iff.1 htarget).2.2.1.2
  exact ⟨t, IscsiTarget.ofDevicePath_devicePath hname, htarget⟩

/-- An attachment has a `devicePath` just if its address is an `IsDottedQuad` and it tells a port and a
    name. -/
theorem exists_devicePath_iff : (∃ device, a.devicePath = .ok device) ↔
    (∃ address, a.ipv4 = some address ∧ IsDottedQuad address) ∧ (∃ port, a.port = some port) ∧
      ∃ iqn, a.iqn = some iqn ∧ iqn ≠ "" := by
  simp only [devicePath_eq_ok_iff, target_eq_ok_iff, isDottedQuad_iff]
  constructor
  · rintro ⟨_, t, ⟨haddress, hport, hname, -⟩, -⟩
    exact ⟨⟨_, haddress, t.ip, rfl⟩, ⟨t.port, hport⟩, t.iqn, hname⟩
  · rintro ⟨⟨_, haddress, ip, rfl⟩, ⟨port, hport⟩, iqn, hname⟩
    exact ⟨_, ⟨ip, port, iqn, IscsiTarget.defaultLun⟩, ⟨haddress, hport, hname, rfl⟩, rfl⟩

end VolumeAttachment

/-- **The device that an attach answers with comes back as the same target.** `IscsiTarget.ofDevicePath`
    undoes `IscsiTarget.devicePath` for every target that has a name, whatever marks the name holds. An
    attachment has a `VolumeAttachment.devicePath` just if it tells an address, a port and a name, and these
    are what its device is read as. -/
theorem device_comes_back :
    (∀ t : IscsiTarget, t.iqn ≠ "" → IscsiTarget.ofDevicePath t.devicePath = .ok t) ∧
    ∀ a : VolumeAttachment,
      ((∃ device, a.devicePath = .ok device) ↔
        (∃ address, a.ipv4 = some address ∧ IsDottedQuad address) ∧ (∃ port, a.port = some port) ∧
          ∃ iqn, a.iqn = some iqn ∧ iqn ≠ "") ∧
      ∀ device, a.devicePath = .ok device → ∃ t, IscsiTarget.ofDevicePath device = .ok t ∧
        a.ipv4 = some (String.ofList t.ip.toChars) ∧ a.port = some t.port ∧ a.iqn = some t.iqn ∧
        t.lun = 1 := by
  refine ⟨fun t => IscsiTarget.ofDevicePath_devicePath, fun a => ?_⟩
  refine ⟨VolumeAttachment.exists_devicePath_iff, fun device h => ?_⟩
  obtain ⟨t, hread, htarget⟩ := VolumeAttachment.ofDevicePath_devicePath h
  obtain ⟨haddress, hport, ⟨hname, -⟩, hlun⟩ := VolumeAttachment.target_eq_ok_iff.1 htarget
  exact ⟨t, hread, haddress, hport, hname, hlun⟩

/-- A target whose `iqn` holds all the marks that its device's path has. -/
def markedTarget : IscsiTarget :=
  ⟨⟨10, 0, 0, 255⟩, 65535, "-iscsi-ip-1.2.3.4:5-lun-6-lun-", 1⟩

/-- An attachment to `markedTarget`. -/
def markedAttachment : VolumeAttachment :=
  { id := "attachment", volumeId := "volume", instanceId := "instance", state := .attached,
    attachmentType := "iscsi", ipv4 := some "10.0.0.255", port := some 65535,
    iqn := some markedTarget.iqn }

/-- The marks in the name of `markedTarget` do not mislead who reads its device. -/
theorem device_comes_back_marked :
    markedTarget.iqn ≠ "" ∧ IscsiTarget.ofDevicePath markedTarget.devicePath = .ok markedTarget ∧
      markedAttachment.devicePath = .ok markedTarget.devicePath ∧
      ∃ t, IscsiTarget.ofDevicePath markedTarget.devicePath = .ok t ∧
        markedAttachment.ipv4 = some (String.ofList t.ip.toChars) ∧
        markedAttachment.port = some t.port ∧ markedAttachment.iqn = some t.iqn ∧ t.lun = 1 := by
  have hname : markedTarget.iqn ≠ "" := by decide
  have haddress : markedAttachment.ipv4 = some (String.ofList markedTarget.ip.toChars) := by
    rw [ofList_toChars]
    decide
  have htarget : markedAttachment.target = .ok markedTarget :=
    VolumeAttachment.target_eq_ok_iff.2 ⟨haddress, rfl, ⟨rfl, hname⟩, rfl⟩
  have hdevice : markedAttachment.devicePath = .ok markedTarget.devicePath :=
    VolumeAttachment.devicePath_eq_ok_iff.2 ⟨markedTarget, htarget, rfl⟩
  exact ⟨hname, device_comes_back.1 markedTarget hname, hdevice,
    (device_comes_back.2 markedAttachment).2 _ hdevice⟩

end VolumeDriver
