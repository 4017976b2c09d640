import VolumeDriver.Host.BlockVolume
set_option autoImplicit false

/-! # Mounting and unmounting exports

The device of a file system is the path of its export, whose second name is the address to mount it from
(`exportAddress`). -/

namespace VolumeDriver.Host

/-- The file system type of an export. -/
def nfsType : String := "nfs"

/-- The address in the path of an export, its second name; `Fault.invalidDevicePath` where there is none. -/
def exportAddress (device : String) : Except Fault String :=
  match Cut.splitAll '/' device.toList with
  | [] :: _ :: address :: _ =>
    if address.isEmpty then refused else .ok (String.ofList address)
  | _ => refused
where
  refused : Except Fault String :=
    .error (.invalidDevicePath device "expected /mnt/<address>/<file system>")

/-- Mounts an export from its `exportAddress`. It is left alone if it is mounted at the directory already;
    anything else that is mounted there is in the way. -/
def mountExport (directory device : String) (options : List String) : Run MountOutcome := do
  let address ← .ofExcept (exportAddress device)
  let source := address ++ ":" ++ device
  match ← mountAt directory with
  | some entry =>
    if entry.source = source then return .alreadyMounted
    else throw (.foreignMount directory entry.source source)
  | none =>
    operate (.mount source directory nfsType options)
    return .mounted

/-- Unmounts whatever is mounted at a directory, without a look at it (`mountAt`). -/
def unmountExport (directory : String) : Run Unit :=
  operate (.unmount directory)

end VolumeDriver.Host
