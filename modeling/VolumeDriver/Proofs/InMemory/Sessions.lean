import VolumeDriver.Proofs.Host.Mount
import VolumeDriver.Proofs.InMemory.Backing
import VolumeDriver.Proofs.InMemory.Sides
set_option autoImplicit false

/-! # No session ends under a mount

Whatever call-outs a host is given, and whatever fails on the way, every device that is mounted stays there
with the session of its target (`Node.SessionsHeld`). A mount is only made of a device that is there and is
not mounted yet; an unmount logs out of a target only when the mount that told of it is undone. -/

namespace VolumeDriver

/-- The device that a call-out is to mount. -/
def CallOut.device? : CallOut → Option String
  | .mountDevice _ device _ => some device
  | _ => none

namespace InMemory

open Host

/-- There is something behind every mount of the world's host (`Node.Backed`). -/
def BackedBy (devices : List String) (w : World) : Prop :=
  w.node.Backed devices

variable {devices : List String} {w w' : World} {directory device fsType : String}
  {options : List String} {wait : DeviceWait}

/-! ## Flows of the host side -/

theorem BackedBy.operate (h : BackedBy devices w) (o : Operation)
    (ho : w.node.Allowed devices o) :
    Fallible.Throughout World.hostAnswer (BackedBy devices) (operate o) w :=
  throughout_operate h (Node.Backed.operate h ho)

theorem throughout_bringDevice {target : IscsiTarget} (ht : target ∈ targetsOf devices)
    (h : BackedBy devices w) :
    Fallible.Throughout World.hostAnswer (BackedBy devices) (bringDevice target device wait) w := by
  refine (only_bringDevice target device wait).throughout (fun action s haction hs => ?_) h
  cases action with
  | pause milliseconds => exact hs
  | operate o =>
    refine Node.Backed.operate hs ?_
    -- Only the login needs to be allowed, and it is one to the target itself.
    cases o with
    | login t =>
      rw [show t = target from haction]
      exact ht
    | _ => trivial

theorem throughout_mountVolume (h : BackedBy devices w) (hdevice : device ∈ devices) :
    Fallible.Throughout World.hostAnswer (BackedBy devices)
      (mountVolume directory device fsType options wait) w := by
  rw [mountVolume_eq]
  refine (Fallible.throughout_ofExcept _ h).bind fun target w₀ hread _ => ?_
  obtain ⟨htarget, rfl⟩ := Fallible.ok_of_runs_ofExcept hread
  have ht : target ∈ targetsOf devices :=
    mem_targetsOf.2 ⟨device, hdevice, ofDevicePath_of_targetOf htarget⟩
  refine (h.operate (.deviceOpened device) trivial).bind fun opened w₁ hopened h₁ => ?_
  obtain ⟨hbrings, hafter⟩ := effect_of_runs hopened
  cases opened with
  | true => exact Fallible.throughout_pure _ h₁
  | false =>
    refine (throughout_bringDevice ht h₁).bind fun _ w₂ hbring h₂ => ?_
    -- The device was not mounted, and to bring it about has mounted nothing.
    have hnew : ∀ e ∈ w₂.node.mounts, e.source ≠ device := by
      have hmounts₁ : w₁.node.mounts = w.node.mounts := (congrArg Node.mounts hafter :)
      rw [(layout_bringDevice hbring).1, hmounts₁]
      intro e he heq
      have hnone := List.any_eq_false.1 hbrings.symm e he
      exact hnone (decide_eq_true heq)
    refine (h₂.operate (.formatAndMount device directory fsType options) hnew).bind ?_
    exact fun _ w₃ _ h₃ => Fallible.throughout_pure _ h₃

theorem throughout_mountAt (h : BackedBy devices w) (path : String) :
    Fallible.Throughout World.hostAnswer (BackedBy devices) (mountAt path) w :=
  (h.operate .mounts trivial).bind fun _ _ _ h₁ => Fallible.throughout_pure _ h₁

theorem throughout_unmountVolume (h : BackedBy devices w) (separate : Separate devices) :
    Fallible.Throughout World.hostAnswer (BackedBy devices) (unmountVolume directory) w := by
  refine (throughout_mountAt h directory).bind fun found w₁ hfound h₁ => ?_
  obtain ⟨rfl, hplain₁⟩ := mountAt_cases hfound
  split
  · exact Fallible.throughout_pure _ h₁
  · rename_i entry htop
    refine (h₁.operate (.byPathLink entry.source) trivial).bind fun link w₂ hlink h₂ => ?_
    obtain ⟨hbrings, hplain₂⟩ := effect_of_runs hlink
    have hmounts₂ : w₂.node.mounts = w.node.mounts :=
      (congrArg Node.mounts (hplain₂.trans hplain₁) :)
    split
    · exact Fallible.throughout_throw _ h₂
    · rename_i link
      obtain ⟨rfl, _⟩ := Node.eq_of_link? hbrings.symm
      refine (Fallible.throughout_ofExcept _ h₂).bind fun target w₃ hread _ => ?_
      obtain ⟨htarget, rfl⟩ := Fallible.ok_of_runs_ofExcept hread
      refine (h₂.operate (.unmount directory) trivial).bind fun _ w₃ hunmount h₃ => ?_
      obtain ⟨mounted, hplain₃⟩ := effect_of_runs hunmount
      -- The mount that is undone is the one that was looked up, for nothing was mounted in between.
      have htop₂ : MountTable.top? w₂.node.plain.mounts directory = some entry := by
        rw [Node.plain_mounts, hmounts₂]
        exact htop
      have hallowed : w₃.node.Allowed devices (.logout target) := by
        rw [← Node.allowed_plain, hplain₃]
        exact (Node.Backed.plain_iff.2 h₂).allowed_logout separate htop₂
          (ofDevicePath_of_targetOf htarget) mounted
      refine (h₃.operate (.logout target) hallowed).bind fun _ w₄ _ h₄ => ?_
      refine (h₄.operate (.removeRecord target) trivial).bind fun _ w₅ _ h₅ => ?_
      exact Fallible.throughout_pure _ h₅

theorem throughout_mountExport (h : BackedBy devices w) (hdevice : device ∈ devices) :
    Fallible.Throughout World.hostAnswer (BackedBy devices)
      (mountExport directory device options) w := by
  refine (Fallible.throughout_ofExcept _ h).bind fun address w₀ hread _ => ?_
  obtain ⟨haddress, rfl⟩ := Fallible.ok_of_runs_ofExcept hread
  refine (throughout_mountAt h directory).bind fun found w₁ _ h₁ => ?_
  split
  · split
    · exact Fallible.throughout_pure _ h₁
    · exact Fallible.throughout_throw _ h₁
  · have hsource : address ++ ":" ++ device ∈ exportSources devices :=
      mem_exportSources.2 ⟨device, hdevice, address, haddress, rfl⟩
    refine (h₁.operate (.mount _ directory nfsType options) hsource).bind fun _ w₂ _ h₂ => ?_
    exact Fallible.throughout_pure _ h₂

theorem throughout_unmountExport (h : BackedBy devices w) :
    Fallible.Throughout World.hostAnswer (BackedBy devices) (unmountExport directory) w :=
  h.operate (.unmount directory) trivial

/-! ## Call-outs -/

theorem backedBy_of_node (w w' : World) (h : w'.node = w.node) (hw : BackedBy devices w) :
    BackedBy devices w' := by
  rw [BackedBy, h]
  exact hw

theorem throughout_select (h : BackedBy devices w) (route : Route) (callOut : CallOut) :
    Fallible.Throughout World.act (BackedBy devices) (route.select callOut) w := by
  cases route with
  | fixed family => exact Fallible.throughout_pure _ h
  | claim =>
    by_cases hverb : callOut.verb = .unmountDevice
    · cases callOut with
      | unmountDevice directory =>
        refine (throughout_onHost (throughout_mountAt h directory)).bind fun found w₁ _ h₁ => ?_
        split <;> exact Fallible.throughout_pure _ h₁
      | _ => cases hverb
    · rw [select_claim hverb]
      exact Fallible.throughout_ofExcept _ h

theorem throughout_dispatch (h : BackedBy devices w) (separate : Separate devices)
    (timing : Timing) (family : StorageFamily) {callOut : CallOut}
    (hdevice : ∀ device ∈ callOut.device?, device ∈ devices) :
    ((driverFor timing family).dispatch callOut).Throughout World.act (BackedBy devices) w := by
  by_cases hmount : callOut.verb = .mountDevice
  · cases callOut with
    | mountDevice directory device options =>
      have hdevice := hdevice device rfl
      cases family with
      | block =>
        refine throughout_answer ((throughout_onHost (throughout_mountVolume h hdevice)).bind ?_)
        intro outcome w₁ _ h₁
        cases outcome <;> exact Fallible.throughout_pure _ h₁
      | fileStorage =>
        refine throughout_answer ((throughout_onHost (throughout_mountExport h hdevice)).bind ?_)
        intro outcome w₁ _ h₁
        cases outcome <;> exact Fallible.throughout_pure _ h₁
    | _ => cases hmount
  by_cases hunmount : callOut.verb = .unmountDevice
  · cases callOut with
    | unmountDevice directory =>
      cases family with
      | block =>
        refine throughout_answer ((throughout_onHost (throughout_unmountVolume h separate)).bind ?_)
        intro outcome w₁ _ h₁
        cases outcome <;> exact Fallible.throughout_pure _ h₁
      | fileStorage =>
        refine throughout_answer ((throughout_onHost (throughout_unmountExport h)).bind ?_)
        exact fun _ w₁ _ h₁ => Fallible.throughout_pure _ h₁
    | _ => cases hunmount
  -- Whatever else is asked of a driver, the host does not notice.
  exact throughout_of_only (only_dispatch timing family hmount hunmount) backedBy_of_node h

theorem throughout_routeAnswer (h : BackedBy devices w) (separate : Separate devices)
    (timing : Timing) (route : Route) {callOut : CallOut}
    (hdevice : ∀ device ∈ callOut.device?, device ∈ devices) :
    (route.answer timing callOut).Throughout World.act (BackedBy devices) w := by
  have hselect := throughout_select h route callOut
  refine Flow.Throughout.bind hselect ?_
  have hlast := hselect.last
  rcases hrun : (route.select callOut).run.run World.act w with ⟨fault | family, w₁⟩
  · rw [hrun] at hlast
    exact Flow.throughout_done hlast
  · rw [hrun] at hlast
    exact throughout_dispatch hlast separate timing family hdevice

/-! ## What happens to a host -/

/-- What happens to a host: the program is called with some arguments, its name first, or the next operation
    of a name is made to fail. -/
inductive HostEvent
  | called (args : List String)
  | failure (operation : String) (fault : Host.Fault)

namespace HostEvent

/-- The device that is to be mounted. -/
def device? : HostEvent → Option String
  | called args => (CallOut.parse args).toOption.bind CallOut.device?
  | failure _ _ => none

/-- All worlds that come of what happens, from the first to the last. -/
def visits (timing : Timing) (table : List (String × Route)) : List HostEvent → World → List World
  | [], w => [w]
  | called args :: events, w =>
    (execute timing table args).visits World.act w ++
      visits timing table events ((execute timing table args).run World.act w).2
  | failure operation fault :: events, w =>
    w :: visits timing table events (w.failingHost operation fault)

end HostEvent

theorem throughout_execute (h : BackedBy devices w) (separate : Separate devices)
    (timing : Timing) (table : List (String × Route)) {args : List String}
    (hdevice : ∀ device ∈ (HostEvent.called args).device?, device ∈ devices) :
    (execute timing table args).Throughout World.act (BackedBy devices) w := by
  rcases execute_cases timing table args with ⟨status, hdone⟩ | ⟨route, callOut, _, hparse, hanswer⟩
  · rw [hdone]
    exact Flow.throughout_done h
  · rw [hanswer]
    refine throughout_routeAnswer h separate timing route fun device hd => hdevice device ?_
    rw [HostEvent.device?, hparse]
    exact hd

/-- There is something behind every mount, all the way through `visits`. -/
theorem backedBy_visits (timing : Timing) (table : List (String × Route)) (separate : Separate devices)
    {events : List HostEvent} (hdevices : ∀ event ∈ events, ∀ device ∈ event.device?, device ∈ devices)
    (h : BackedBy devices w) : ∀ w' ∈ HostEvent.visits timing table events w, BackedBy devices w' := by
  -- The invariant is about the devices of all events, so that it is the same one for the rest of them.
  induction events generalizing w with
  | nil =>
    intro w' hw'
    cases List.mem_singleton.1 hw'
    exact h
  | cons event events ih =>
    have hrest : ∀ event ∈ events, ∀ device ∈ event.device?, device ∈ devices :=
      fun event he => hdevices event (List.mem_cons_of_mem _ he)
    cases event with
    | called args =>
      have hcalled := throughout_execute h separate timing table
        (hdevices (.called args) List.mem_cons_self)
      intro w' hw'
      rcases List.mem_append.1 hw' with hw' | hw'
      · exact hcalled w' hw'
      · exact ih hrest hcalled.last w' hw'
    | failure operation fault =>
      intro w' hw'
      rcases List.mem_cons.1 hw' with rfl | hw'
      · exact h
      · -- Which operations are to fail does not show.
        have hplain : w.node.plain.Backed devices := Node.Backed.plain_iff.2 h
        have hfailing : BackedBy devices (w.failingHost operation fault) :=
          Node.Backed.plain_iff.1 hplain
        exact ih hrest hfailing w' hw'

/-- **No session ends under a mount.** Begin with a host that has no mounts and no devices, and no directory
    that is spelt with a slash at its end. Let the program be called any number of times, by any name and
    with any arguments, and let any operations fail. If the devices that are to be mounted give no name to
    two targets, even where a target is read off the source of an export (`Separate`), then whatever the
    host comes through, every device that is mounted is there with the session of its target, and is mounted
    once (`Node.SessionsHeld`). -/
theorem sessions_held {timing : Timing} {table : List (String × Route)} {events : List HostEvent}
    (hmounts : w.node.mounts = []) (hdevices : w.node.devices = .empty)
    (plainly : ∀ d, w.node.directories.contains d = true → d.toList.getLast? ≠ some '/')
    (separate : Separate (events.filterMap HostEvent.device?)) :
    ∀ w' ∈ HostEvent.visits timing table events w, w'.node.SessionsHeld := by
  intro w' hw'
  have hmem : ∀ event ∈ events, ∀ device ∈ event.device?,
      device ∈ events.filterMap HostEvent.device? :=
    fun event he device hd => List.mem_filterMap.2 ⟨event, he, hd⟩
  have hstart : BackedBy (events.filterMap HostEvent.device?) w :=
    Node.backed_of_empty hmounts hdevices plainly
  exact Node.Backed.sessionsHeld (backedBy_visits timing table separate hmem hstart w' hw')

/-- A host with two directories and nothing else. -/
def twoDirectories : World where
  node := { directories := .ofList [("/mnt/a", ()), ("/mnt/b", ())] }

theorem twoDirectories_plainly : ∀ d, twoDirectories.node.directories.contains d = true →
    d.toList.getLast? ≠ some '/' := by
  intro d hd
  have hkeys : ∀ key ∈ twoDirectories.node.directories.keys, key.toList.getLast? ≠ some '/' := by
    decide
  exact hkeys d (Dictionary.mem_keys_of_contains hd)

/-- A volume and an export are mounted, and to unmount the volume takes two attempts. -/
def troubledLife : List HostEvent :=
  [.called ["oci", "mountdevice", "/mnt/a", sampleMount.source, "\x7b\x7d"],
    .called ["oci-fss", "mountdevice", "/mnt/b", "/mnt/10.0.0.9/b", "\x7b\x7d"],
    .failure "unmount" (timedOut "umount"),
    .called ["oci", "unmountdevice", "/mnt/a"],
    .called ["oci", "unmountdevice", "/mnt/a"]]

/-- In `troubledLife`, the session outlasts the mount. -/
theorem sessions_held_troubledLife :
    twoDirectories.node.mounts = [] ∧ twoDirectories.node.devices = .empty ∧
    (∀ d, twoDirectories.node.directories.contains d = true → d.toList.getLast? ≠ some '/') ∧
    Separate (troubledLife.filterMap HostEvent.device?) ∧
    (∃ w' ∈ HostEvent.visits {} Route.standard troubledLife twoDirectories,
      w'.node.mounts.length = 2) ∧
    ∀ w' ∈ HostEvent.visits {} Route.standard troubledLife twoDirectories, w'.node.SessionsHeld := by
  have separate : Separate (troubledLife.filterMap HostEvent.device?) :=
    ⟨by decide +kernel, by decide +kernel⟩
  refine ⟨rfl, rfl, twoDirectories_plainly, separate, by decide +kernel, ?_⟩
  exact sessions_held rfl rfl twoDirectories_plainly separate

/-- A volume, and an export whose source is the path of the volume's device but for the directory. -/
def lookalikes : List HostEvent :=
  [.called ["oci-bvs", "mountdevice", "/mnt/a",
      "/dev/disk/by-path/ip-1.2.3.4:3260-iscsi-x:/mnt/ip-1.2.3.4:3260-iscsi-x/-lun-1",
      "\x7b\x7d"],
    .called ["oci-fss", "mountdevice", "/mnt/b", "/mnt/ip-1.2.3.4:3260-iscsi-x/-lun-1",
      "\x7b\x7d"],
    .called ["oci-bvs", "unmountdevice", "/mnt/b"]]

/-- In `lookalikes`, to unmount the export ends the session of the volume, which is still mounted. The
    devices alone give no name to two targets. -/
theorem lookalikes_end_session :
    twoDirectories.node.mounts = [] ∧ twoDirectories.node.sessions = .empty ∧
    twoDirectories.node.devices = .empty ∧
    (∀ d, twoDirectories.node.directories.contains d = true → d.toList.getLast? ≠ some '/') ∧
    (∀ t ∈ targetsOf (lookalikes.filterMap HostEvent.device?),
      ∀ t' ∈ targetsOf (lookalikes.filterMap HostEvent.device?), t.iqn = t'.iqn → t = t') ∧
    ∃ w' ∈ HostEvent.visits {} Route.standard lookalikes twoDirectories, ¬w'.node.SessionsHeld := by
  refine ⟨rfl, rfl, rfl, twoDirectories_plainly, ?_, ?_⟩
  · decide +kernel
  · decide +kernel

end InMemory

end VolumeDriver
