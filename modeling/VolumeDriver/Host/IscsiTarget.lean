import VolumeDriver.Text.Ipv4
set_option autoImplicit false

/-! # iSCSI targets and their device paths

Once the host is logged in to a target, the volume behind it appears as a device whose path spells the
target: address and port of the portal, the target's name and the number of the logical unit.
`IscsiTarget.devicePath` writes that path and `IscsiTarget.ofDevicePath` reads it. -/

namespace VolumeDriver

/-- A target that a host can log in to. -/
structure IscsiTarget where
  ip : Ipv4
  port : UInt16
  /-- the target's qualified name -/
  iqn : String
  /-- the number of the logical unit -/
  lun : UInt16
  deriving DecidableEq, Repr

namespace IscsiTarget

/-- The directory of the devices' paths. -/
def directory : String := "/dev/disk/by-path/"

/-- The logical unit of every attached volume. -/
def defaultLun : UInt16 := 1

/-- Between the portal and the target's name. -/
def iscsiMark : String := "-iscsi-"

/-- Between the target's name and the logical unit. -/
def lunMark : String := "-lun-"

/-- How the name of a device begins. -/
def nameStart : String := "ip-"

/-- Address and port. -/
def portal (t : IscsiTarget) : String :=
  String.ofList (t.ip.toChars ++ ':' :: Numeral.decimal t.port.toNat)

/-- The name of the device: `nameStart`, the `portal`, `iscsiMark`, the target's name, `lunMark` and the
    logical unit. -/
def deviceName (t : IscsiTarget) : String :=
  nameStart ++ t.portal ++ iscsiMark ++ t.iqn ++ lunMark ++
    String.ofList (Numeral.decimal t.lun.toNat)

/-- The path of the device: its `deviceName` in the `directory`. -/
def devicePath (t : IscsiTarget) : String :=
  directory ++ t.deviceName

/-- The target as it is shown. -/
def describe (t : IscsiTarget) : String :=
  t.iqn ++ " (" ++ t.portal ++ ")"

/-! ## Reading a device path -/

/-- Why a path is not that of a target's device. -/
inductive Fault
  | noPrefix
  | noIscsiMark
  | noPort
  | noLunMark
  | emptyName
  | badAddress
  | badPort
  | badLun
  deriving DecidableEq, Repr

/-- The `IscsiTarget.Fault` in words. -/
def Fault.reason : Fault → String
  | noPrefix => "expected an ip-<address>:<port> prefix"
  | noIscsiMark => "missing -iscsi- separator"
  | noPort => "portal is missing a port"
  | noLunMark => "missing -lun- suffix"
  | emptyName => "empty target name"
  | badAddress => "portal address is not IPv4"
  | badPort => "portal port is not a number"
  | badLun => "LUN is not a number"

/-- A number of sixteen bits. -/
def word? (s : List Char) : Option UInt16 :=
  (Numeral.parse? 65535 s).map UInt16.ofNat

/-- What a missing value stands for is the `fault`. -/
def orFault {α : Type} (fault : Fault) : Option α → Except Fault α
  | some a => .ok a
  | none => .error fault

/-- The target of a device. The target's name may hold marks of its own: the first `-iscsi-` ends the
    portal and the last `-lun-` begins the unit's number. -/
def ofDeviceName (name : List Char) : Except Fault IscsiTarget := do
  let rest ← orFault .noPrefix (Cut.dropPrefix? nameStart.toList name)
  let (portal, rest) ← orFault .noIscsiMark (Cut.splitFirst? iscsiMark.toList rest)
  let (ip, port) ← orFault .noPort (Cut.splitLast? [':'] portal)
  let (iqn, lun) ← orFault .noLunMark (Cut.splitLast? lunMark.toList rest)
  if iqn.isEmpty then throw .emptyName
  let ip ← orFault .badAddress (Ipv4.parse? ip)
  let port ← orFault .badPort (word? port)
  let lun ← orFault .badLun (word? lun)
  return ⟨ip, port, String.ofList iqn, lun⟩

/-- The target of a device, by its `deviceName`; the `directory` may be left out. -/
def ofDevicePath (path : String) : Except Fault IscsiTarget :=
  ofDeviceName ((Cut.dropPrefix? directory.toList path.toList).getD path.toList)

end IscsiTarget

end VolumeDriver
