import VolumeDriver.Config.Basic
import VolumeDriver.Text.Utf8
import VolumeDriver.Toml.Parse
set_option autoImplicit false

/-! # The configuration file

The file is TOML, and `parse` reads a `Config` from it. Of the values it may give under several names it may
give one only; what it does not mention is left open, and what the driver does not know is passed over. The
section on the cluster may also be a list of its values in their order. -/

namespace VolumeDriver.Config

open Toml (Value)

/-- A field of the section on the cluster: its names, and how it is set. -/
structure AuthField where
  names : List String
  set : String → Auth → Auth

/-- The fields of the section on the cluster, each an `AuthField`, in their order. -/
def authFields : List AuthField :=
  [⟨["region"], fun v a => { a with region := v }⟩,
   ⟨["region_key", "regionKey"], fun v a => { a with regionKey := v }⟩,
   ⟨["tenancy"], fun v a => { a with tenancy := v }⟩,
   ⟨["compartment"], fun v a => { a with compartment := v }⟩,
   ⟨["user"], fun v a => { a with user := v }⟩,
   ⟨["key"], fun v a => { a with key := v }⟩,
   ⟨["passphrase"], fun v a => { a with passphrase := v }⟩,
   ⟨["key_passphrase", "key_passphase"], fun v a => { a with keyPassphrase := v }⟩,
   ⟨["fingerprint"], fun v a => { a with fingerprint := v }⟩,
   ⟨["vcn"], fun v a => { a with vcn := v }⟩]

/-- The values that a table gives for a field with some names. -/
def given (names : List String) (members : List (String × Value)) : List Value :=
  members.filterMap fun m => if m.1 ∈ names then some m.2 else none

/-- Sets a field to what a table gives for it (`given`): at most one value, and a string. -/
def setField (members : List (String × Value)) (a : Auth) (field : AuthField) : Option Auth :=
  match given field.names members with
  | [] => some a
  | [.text v] => some (field.set v a)
  | _ => none

/-- Sets the fields to the values of a list, in their order. -/
def setInOrder : List AuthField → List Value → Auth → Option Auth
  | field :: fields, .text v :: values, a => setInOrder fields values (field.set v a)
  | _ :: _, _ :: _, _ => none
  | _, _, a => some a

/-- The section on the cluster, from a table or from a list of values in the order of `authFields`. -/
def authOf : Value → Option Auth
  | .table members => authFields.foldlM (setField members) {}
  | .list values => setInOrder authFields values {}
  | .moment => some {}
  | _ => none

/-- A value that a table gives at most once, read by `read`; `other` if it does not. -/
def givenOnce {α : Type} (names : List String) (read : Value → Option α) (other : α)
    (members : List (String × Value)) : Option α :=
  match given names members with
  | [] => some other
  | [v] => read v
  | _ => none

/-- A truth value. -/
def flagOf : Value → Option Bool
  | .flag b => some b
  | _ => none

/-- A string. -/
def textOf : Value → Option (Option String)
  | .text s => some (some s)
  | _ => none

/-- The `Config` that a table holds. -/
def ofTable (members : List (String × Value)) : Option Config := do
  return {
    auth := ← givenOnce ["auth"] authOf {} members
    useInstancePrincipals :=
      ← givenOnce ["use_instance_principals", "useInstancePrincipals"] flagOf false members
    endpoint := ← givenOnce ["endpoint"] textOf none members }

/-- The `Config` in a file. -/
def parse (path : String) (content : List UInt8) : Except Fault Config :=
  match Utf8.decode content with
  | .error _ => .error (.malformed path)
  | .ok text =>
    match (Toml.parse text).bind ofTable with
    | some config => .ok config
    | none => .error (.malformed path)

end VolumeDriver.Config
