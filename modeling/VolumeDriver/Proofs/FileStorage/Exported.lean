import VolumeDriver.Proofs.FileStorage.CallOuts
import VolumeDriver.Proofs.FileStorage.Retry
import VolumeDriver.Proofs.Ownership
import VolumeDriver.Proofs.VolumeLife
set_option autoImplicit false

/-! # File systems exported one after the other

What attaches, detaches and looks for file systems answer, one after the other, is what a set answers
that knows no exports: whether a file system is in it (`Exported`). The exports pile up meanwhile, for
one that is deleted stays on record. What ties them to the set is the one live export at the target of
each file system (`Cloud.Exports`); each call-out keeps that tie, and on the way there the exports never
get in each other's way. -/

namespace VolumeDriver

/-- An `exportPath` tells its file system apart from others, as long as there is no slash in the address. -/
theorem exportPath_injective {address address' a b : String} (h : '/' ∉ address.toList)
    (h' : '/' ∉ address'.toList) (hpath : exportPath address a = exportPath address' b) :
    address = address' ∧ a = b := by
  have hcut : ∀ address id : String, (exportPath address id).toList =
      "/mnt/".toList ++ (address.toList ++ (['/'] ++ id.toList)) := by
    simp [exportPath, String.toList_append]
  have hrest : address.toList ++ (['/'] ++ a.toList) = address'.toList ++ (['/'] ++ b.toList) := by
    have hlists := congrArg String.toList hpath
    rw [hcut, hcut] at hlists
    exact List.append_cancel_left hlists
  have hfirst := congrArg (Cut.splitFirst? ['/']) hrest
  rw [Cut.splitFirst?_append h, Cut.splitFirst?_append h'] at hfirst
  obtain ⟨haddress, hid⟩ := Prod.mk.inj (Option.some.inj hfirst)
  exact ⟨String.toList_inj.1 haddress, String.toList_inj.1 hid⟩

namespace InMemory

open ControlPlane Controller

/-! ## Call-outs and the set -/

/-- The file system that a call-out is about, if it names one. -/
def VolumeCallOut.fileSystem? : VolumeCallOut → Option String
  | attach options _ | isAttached options _ => options.volumeName?
  | detach volume _ => some volume

/-- The flow with which `FileStorage.driver` answers a call-out. -/
def VolumeCallOut.exportFlow (timing : Timing) (c : VolumeCallOut) : Answering :=
  (FileStorage.driver timing).dispatch c.callOut

/-- The statuses that flows come to which are run one after the other, and the world afterwards. -/
def answerInTurn : List Answering → World → List Status × World
  | [], w => ([], w)
  | m :: rest, w =>
    let (status, w) := m.run World.act w
    let (statuses, w) := answerInTurn rest w
    (status :: statuses, w)

/-- For each file system whether it is exported. -/
abbrev Exported : Type := String → Bool

namespace Exported

/-- No file system is exported. -/
def none : Exported := fun _ => false

/-- The set with a file system in it, or out of it if `isIn` is `false`. -/
def set (exported : Exported) (name : String) (isIn : Bool) : Exported :=
  fun other => if other = name then isIn else exported other

theorem eq_of_set {exported : Exported} {name : String} {isIn : Bool}
    (h : exported.set name isIn = exported) : isIn = exported name := by
  have hname := congrFun h name
  rwa [set, if_pos rfl] at hname

theorem set_same {exported : Exported} {name : String} {isIn : Bool} (h : exported name = isIn) :
    exported.set name isIn = exported := by
  funext other
  rw [set]
  split
  · rename_i hother
    rw [hother, h]
  · rfl

/-- The answer to a call-out, where `targets` says where file systems are exported, and the set
    afterwards. -/
def answer (targets : String → ExportTarget) (exported : Exported) : VolumeCallOut → Status × Exported
  | .attach options _ =>
    match options.volumeName? with
    | .none => (.failure DriverFault.missingVolumeName.message, exported)
    | .some name =>
      ({ Status.success with device := some (exportPath (targets name).address name) },
        exported.set name true)
  | .detach name _ =>
    if exported name then
      (.successWith ("Detach " ++ name ++ " from " ++ (targets name).mountTarget.id),
        exported.set name false)
    else
      (.failure (ExportFault.notFound name (exportPath (targets name).address name)).message, exported)
  | .isAttached options _ =>
    match options.volumeName? with
    | .none => (.failure DriverFault.missingVolumeName.message, exported)
    | .some name => ({ Status.success with attached := exported name }, exported)

/-- What `Exported.answer` gives for call-outs that come one after the other, and the set afterwards. -/
def answerAll (targets : String → ExportTarget) : List VolumeCallOut → Exported →
    List Status × Exported
  | [], exported => ([], exported)
  | c :: rest, exported =>
    let (status, exported) := exported.answer targets c
    let (statuses, exported) := answerAll targets rest exported
    (status :: statuses, exported)

end Exported

/-! ## The tie between exports and the set -/

/-- The file system is located at a target (`Cloud.Locates`) whose address has no slash in it. -/
structure Cloud.Exportable (c : Cloud) (name : String) (t : ExportTarget) : Prop where
  located : c.Locates name t
  plain : '/' ∉ t.address.toList

theorem Cloud.Locates.name_eq {c : Cloud} {name : String} {t : ExportTarget} (h : c.Locates name t) :
    t.fileSystem.id = name := by
  have hid := List.find?_some h.fileSystem
  exact of_decide_eq_true hid

/-- Where file systems are exported, with room in listings for `room` more exports. -/
structure Exporting (limits : Limits) (targets : String → ExportTarget) (used : String → Prop)
    (session : Session) (p : Picture) (room : Nat) : Prop where
  opens : p.session = .ok session
  exportable : ∀ name, used name → p.cloud.Exportable name (targets name)
  size : p.cloud.pageSize ≠ some 0
  targetsLong : p.cloud.mountTargets.length < UInt64.size
  targetPages : p.cloud.mountTargets.length < limits.pages
  long : p.cloud.exports.length + room < UInt64.size
  pages : p.cloud.exports.length + room < limits.pages
  retries : 2 ≤ limits.poll.retries

/-- Whether a control plane holds what the set says: the target of each file system that is `exported` is
    served by an export in place, and that of no other one is served. -/
structure Cloud.Exports (targets : String → ExportTarget) (used : String → Prop) (exported : Exported)
    (c : Cloud) : Prop where
  orderly : c.Orderly targets used
  served : ∀ name, used name →
    (c.serving (targets name)).map Export.state = if exported name then some .active else none

namespace Exporting

variable {limits : Limits} {targets : String → ExportTarget} {used : String → Prop}
  {session : Session} {p q : Picture} {room : Nat} {name other : String}

theorem name_eq (h : Exporting limits targets used session p room) (hname : used name) :
    (targets name).fileSystem.id = name :=
  (h.exportable name hname).located.name_eq

theorem path_eq (h : Exporting limits targets used session p room) (hname : used name) :
    (targets name).path = exportPath (targets name).address name := by
  rw [ExportTarget.path, h.name_eq hname]

theorem isTarget (h : Exporting limits targets used session p room) (hname : used name) :
    IsTarget targets used (targets name) := by
  have hid := h.name_eq hname
  exact ⟨by rwa [hid], by rw [hid]⟩

/-- File systems that are `used` have paths of their own. -/
theorem paths_differ (h : Exporting limits targets used session p room) (hname : used name)
    (hother : used other) (hpath : (targets name).path = (targets other).path) : name = other := by
  rw [h.path_eq hname, h.path_eq hother] at hpath
  exact (exportPath_injective (h.exportable name hname).plain (h.exportable other hother).plain
    hpath).2

theorem resolves (h : Exporting limits targets used session p room) (hname : used name) :
    ControllerLeads p (resolveTarget limits session.compartmentId name) (.ok (targets name)) p
      (· = p) :=
  resolves_of_locates _ (h.exportable name hname).located h.size h.targetsLong h.targetPages rfl

theorem listable (h : Exporting limits targets used session p room) :
    p.cloud.ListableExports limits :=
  ⟨h.size, Nat.lt_of_le_of_lt (Nat.le_add_right _ _) h.long,
    Nat.lt_of_le_of_lt (Nat.le_add_right _ _) h.pages⟩

/-- Where `Exporting` holds, it holds after a call-out: what call-outs do not change decides where file
    systems are exported. -/
theorem of_scene (h : Exporting limits targets used session p (room + 1)) (hq : q.scene = p.scene)
    (hlength : q.cloud.exports.length ≤ p.cloud.exports.length + 1) :
    Exporting limits targets used session q room := by
  have hfixed : q.cloud.fixed = p.cloud.fixed := congrArg Picture.cloud hq
  have hmountTargets : q.cloud.mountTargets = p.cloud.mountTargets :=
    (congrArg Cloud.mountTargets hfixed :)
  have hsize : q.cloud.pageSize = p.cloud.pageSize := (congrArg Cloud.pageSize hfixed :)
  refine ⟨(congrArg Picture.session hq).trans h.opens, fun name hname => ?_, hsize ▸ h.size,
    hmountTargets ▸ h.targetsLong, hmountTargets ▸ h.targetPages, ?_, ?_, h.retries⟩
  · obtain ⟨⟨hfileSystem, hmountTarget, haddress⟩, plain⟩ := h.exportable name hname
    exact ⟨⟨(congrArg Cloud.fileSystems hfixed :) ▸ hfileSystem, hmountTargets ▸ hmountTarget,
      (congrArg Cloud.privateIps hfixed :) ▸ haddress⟩, plain⟩
  · exact Nat.lt_of_le_of_lt (by omega) h.long
  · exact Nat.lt_of_le_of_lt (by omega) h.pages

end Exporting

/-! ## One call-out -/

namespace Cloud.Exports

variable {targets : String → ExportTarget} {used : String → Prop} {exported : Exported}
  {c c' : Cloud} {name : String} {e : Export}

theorem state_of_serving (h : c.Exports targets used exported) (hname : used name)
    (hs : c.serving (targets name) = some e) : exported name = true ∧ e.state = .active := by
  have hserved := h.served name hname
  rw [hs] at hserved
  split at hserved
  · rename_i hin
    exact ⟨hin, Option.some.inj hserved⟩
  · cases hserved

theorem serving_eq_none_iff (h : c.Exports targets used exported) (hname : used name) :
    c.serving (targets name) = none ↔ exported name = false := by
  have hserved := h.served name hname
  cases hin : exported name with
  | true =>
    rw [hin] at hserved
    constructor
    · intro hs
      rw [hs] at hserved
      cases hserved
    · nofun
  | false =>
    rw [hin] at hserved
    exact iff_of_true (Option.map_eq_none_iff.1 hserved) rfl

/-- In `Cloud.Exports`, a file system that is not in the set is exported anew. -/
theorem attach (h : c.Exports targets used exported)
    (hid : ∀ name, used name → (targets name).fileSystem.id = name) (hname : used name)
    (hout : exported name = false) (horderly : c'.Orderly targets used)
    (hexports : c'.exports = c.exports ++ [{ c.newExport (targets name) with state := .active }]) :
    c'.Exports targets used (exported.set name true) := by
  refine ⟨horderly, fun other hother => ?_⟩
  rw [serving, hexports, List.find?_append, List.find?_singleton]
  have hserved := h.served other hother
  by_cases ho : other = name
  · subst ho
    have hnew : isLiveTo (targets other) { c.newExport (targets other) with state := .active } := by
      simp [isLiveTo, newExport, ExportState.isLive]
    rw [show c.exports.find? (isLiveTo (targets other)) = none from
      (h.serving_eq_none_iff hother).2 hout]
    simp [hnew, Exported.set]
  · have hnew : ¬isLiveTo (targets other) { c.newExport (targets name) with state := .active } := by
      simp [isLiveTo, newExport, hid other hother, hid name hname, Ne.symm ho]
    rw [if_neg hnew, Option.or_none, Exported.set, if_neg ho]
    exact hserved

/-- In `Cloud.Exports`, a file system whose export is deleted is in the set no more. -/
theorem detach (h : c.Exports targets used exported)
    (hid : ∀ name, used name → (targets name).fileSystem.id = name) (hname : used name)
    (hs : c.serving (targets name) = some e)
    (horderly : (c.setExportState e.id .deleted).Orderly targets used) :
    (c.setExportState e.id .deleted).Exports targets used (exported.set name false) := by
  have he := h.orderly.sound.find?_id (mem_of_serving hs)
  have hto := isLiveTo_of_serving hs
  refine ⟨horderly, fun other hother => ?_⟩
  by_cases ho : other = name
  · subst ho
    rw [Exported.set, if_pos rfl, if_neg Bool.false_ne_true, Option.map_eq_none_iff]
    obtain ⟨before, after, hl, hu⟩ := updateFirst_of_find? ({ · with state := ExportState.deleted }) he
    -- It was the only live export at its target, so the ones around it do not serve the target.
    have hlive : ∀ a : Export, isLiveTo (targets other) a →
        isLiveAt (targets other).mountTarget.exportSetId (targets other).path a := by
      intro a ha
      simp only [isLiveTo, isLiveAt, Bool.and_eq_true] at ha ⊢
      exact ⟨⟨ha.1.1, ha.2.1⟩, ha.2.2⟩
    have hone := h.orderly.one (targets other).mountTarget.exportSetId (targets other).path
    rw [hl, List.countP_append, List.countP_cons_of_pos (hlive e hto)] at hone
    have hbefore : before.countP (isLiveAt (targets other).mountTarget.exportSetId
        (targets other).path) = 0 := by omega
    have hafter : after.countP (isLiveAt (targets other).mountTarget.exportSetId
        (targets other).path) = 0 := by omega
    rw [List.countP_eq_zero] at hbefore hafter
    rw [serving, setExportState, hu, List.find?_eq_none]
    intro a hmem hserves
    rcases List.mem_append.1 hmem with hmem | hmem
    · exact hbefore a hmem (hlive a hserves)
    · rcases List.mem_cons.1 hmem with rfl | hmem
      · simp [isLiveTo, ExportState.isLive] at hserves
      · exact hafter a hmem (hlive a hserves)
  · rw [Exported.set, if_neg ho, ← h.served other hother]
    have hother' : (targets name).fileSystem.id ≠ (targets other).fileSystem.id := by
      rw [hid name hname, hid other hother]
      exact Ne.symm ho
    have hfileSystem : e.fileSystemId = (targets name).fileSystem.id := by
      simp only [isLiveTo, Bool.and_eq_true, decide_eq_true_eq] at hto
      exact hto.1.2
    refine congrArg _ (find?_updateFirst_other he ?_ ?_) <;>
      simp [isLiveTo, hfileSystem, hother']

end Cloud.Exports

/-- What a call-out makes of the exports: an attach of a file system that is not `exported` adds one export
    of it, in place, and nothing else adds any. -/
def ExportEffect (targets : String → ExportTarget) (exported : Exported) (before after : List Export) :
    VolumeCallOut → Prop
  | .attach options _ => ∀ name, options.volumeName? = some name → exported name = false →
    ∃ e, after = before ++ [e] ∧ e.fileSystemId = name ∧
      e.path = exportPath (targets name).address name ∧ e.state = .active
  | _ => after.length = before.length

/-- What a call-out comes to in a picture that holds what the set says: `next` is its answer and the set
    afterwards. -/
def ExportsTo (timing : Timing) (targets : String → ExportTarget) (used : String → Prop) (p : Picture)
    (c : VolumeCallOut) (exported : Exported) (next : Status × Exported) : Prop :=
  ∃ p', Answers p (c.exportFlow timing) next.1 p' ∧ p'.scene = p.scene ∧
    p'.cloud.exports.length ≤ p.cloud.exports.length + 1 ∧
    (p'.cloud.Orderly targets used → p'.cloud.Exports targets used next.2) ∧
    (next.2 = exported → p' = p) ∧ ExportEffect targets exported p.cloud.exports p'.cloud.exports c

section Step

variable {timing : Timing} {targets : String → ExportTarget} {used : String → Prop}
  {session : Session} {p : Picture} {room : Nat} {exported : Exported} {options : Options}
  {name node : String}

/-- A call-out that leaves the picture as it is, and the set. -/
theorem ExportsTo.idle {c : VolumeCallOut} {status : Status} {now : Exported}
    (h : p.cloud.Exports targets used exported) (hnow : now = exported)
    (hanswers : Answers p (c.exportFlow timing) status p)
    (heffect : ExportEffect targets exported p.cloud.exports p.cloud.exports c) :
    ExportsTo timing targets used p c exported (status, now) := by
  subst hnow
  exact ⟨p, hanswers, rfl, Nat.le_succ _, fun _ => h, fun _ => rfl, heffect⟩

/-- Where `options.volumeName?` is `none`, a call-out ends with `DriverFault.missingVolumeName`. -/
theorem ends_nameless (hname : options.volumeName? = none) (rest : String → DriverRun Status) :
    Ends World.act p (volumeOf options >>= rest) (.error .missingVolumeName) p := by
  have hleads : DriverLeads p (volumeOf options >>= rest) (.error .missingVolumeName) p (· = p) :=
    (leads_volumeOf_none hname).bind_error
  exact hleads.ends

/-- Where `options.volumeName?` is a name, a call-out goes on with it. -/
theorem ends_named {r : Except DriverFault Status} {p' : Picture} {rest : String → DriverRun Status}
    (hname : options.volumeName? = some name) (hrest : Ends World.act p (rest name) r p') :
    Ends World.act p (volumeOf options >>= rest) r p' :=
  (leads_volumeOf_some (E := (· = p)) hname).ends.bind hrest

/-- The path of a target that is not served is free (`Cloud.isTaken`). -/
theorem Exporting.not_taken (h : Exporting timing.limits targets used session p room)
    (horderly : p.cloud.Orderly targets used) (hused : used name)
    (hs : p.cloud.serving (targets name) = none) : ¬p.cloud.isTaken (targets name) := by
  intro htaken
  obtain ⟨e, he, hat⟩ := List.any_eq_true.1 htaken
  simp only [Bool.and_eq_true, decide_eq_true_eq] at hat
  obtain ⟨⟨hset, hpath⟩, hlive⟩ := hat
  -- Whoever is there is of the same file system, for file systems have paths of their own.
  obtain ⟨hused', _, hplace⟩ := horderly.placed e he hlive
  have hid : e.fileSystemId = name := h.paths_differ hused' hused (hplace.symm.trans hpath)
  refine List.find?_eq_none.1 hs e he ?_
  simp [isLiveTo, hset, hpath, hlive, hid, h.name_eq hused]

section Exporting

variable (h : Exporting timing.limits targets used session p (room + 1))
  (ht : p.cloud.Exports targets used exported)

include h ht

variable (node) in
theorem attach_exports (hname : options.volumeName? = some name) (hused : used name) :
    ExportsTo timing targets used p (.attach options node) exported
      ({ Status.success with device := some (exportPath (targets name).address name) },
        exported.set name true) := by
  have hattach : ∀ p', Ends World.act p (exportTo timing.limits (targets name))
      (.ok { Status.success with device := some (targets name).path }) p' →
      Answers p ((VolumeCallOut.attach options node).exportFlow timing)
        { Status.success with device := some (exportPath (targets name).address name) } p' := by
    intro p' hrest
    rw [h.path_eq hused] at hrest
    have hends : Ends World.act p (FileStorage.attach timing.limits options node) _ p' :=
      ends_named hname (ends_aboutTarget h.opens (h.resolves hused) hrest)
    exact hends.answers
  cases hs : p.cloud.serving (targets name) with
  | some e =>
    obtain ⟨hin, hstate⟩ := ht.state_of_serving hused hs
    have hid := ht.orderly.sound.find?_id (Cloud.mem_of_serving hs)
    have hsame : p.withExport e.id .active = p := by
      rw [Picture.withExport, Cloud.setExportState_of_eq hid hstate]
    have hlooks : looksForExport e.state ≤ timing.limits.poll.retries := by
      rw [hstate]
      exact Nat.le_of_succ_le h.retries
    have hrest := leads_exportTo (leads_createExport_served h.listable hs)
      ht.orderly.sound.unscripted hid (Cloud.live_of_serving hs) hlooks rfl hsame
    rw [hsame] at hrest
    refine .idle ht (Exported.set_same hin) (hattach p hrest.ends) ?_
    intro other hother hout
    obtain rfl := Option.some.inj (hname.symm.trans hother)
    rw [hin] at hout
    cases hout
  | none =>
    have hout := (ht.serving_eq_none_iff hused).1 hs
    have hsound := ht.orderly.sound
    have hcreate := (leads_createExport_free h.listable
      (h.not_taken ht.orderly hused hs)).mono (F := fun _ => True) fun _ _ => trivial
    have hrest := leads_exportTo hcreate hsound.unscripted hsound.find?_newExport rfl h.retries
      trivial trivial
    have hexports := hsound.exports_newExport (targets name) .active
    refine ⟨_, hattach _ hrest.ends, rfl, ?_, ?_, ?_, ?_⟩
    · exact Nat.le_of_eq ((congrArg List.length hexports).trans (List.length_append ..))
    · exact fun horderly => ht.attach (fun _ => h.name_eq) hused hout horderly hexports
    · intro hset
      rw [← Exported.eq_of_set hset] at hout
      cases hout
    · intro other hother _
      obtain rfl := Option.some.inj (hname.symm.trans hother)
      exact ⟨_, hexports, h.name_eq hused, h.path_eq hused, rfl⟩

variable (node) in
theorem detach_exports (hused : used name) :
    ExportsTo timing targets used p (.detach name node) exported
      (exported.answer targets (.detach name node)) := by
  have hid := h.name_eq hused
  rw [Exported.answer]
  cases hs : p.cloud.serving (targets name) with
  | some e =>
    obtain ⟨hin, hstate⟩ := ht.state_of_serving hused hs
    have he := ht.orderly.sound.find?_id (Cloud.mem_of_serving hs)
    have hends : Ends World.act p (FileStorage.detach timing.limits name node) _ _ :=
      ends_aboutTarget h.opens (h.resolves hused)
        (ends_undoExport h.listable ht.orderly.sound.unscripted hs he h.retries)
    rw [hid] at hends
    rw [if_pos hin]
    refine ⟨_, hends.answers, rfl, ?_, ?_, ?_, Cloud.length_setExportState e.id .deleted⟩
    · exact Nat.le_succ_of_le (Nat.le_of_eq (Cloud.length_setExportState e.id .deleted))
    · exact fun horderly => ht.detach (fun _ => h.name_eq) hused hs horderly
    · intro hset
      rw [← Exported.eq_of_set hset] at hin
      cases hin
  | none =>
    have hout := (ht.serving_eq_none_iff hused).1 hs
    have hends : Ends World.act p (FileStorage.detach timing.limits name node) _ p :=
      ends_aboutTarget h.opens (h.resolves hused) (leads_undoExport_unserved h.listable hs).ends
    rw [hid, h.path_eq hused] at hends
    rw [if_neg (by simp [hout])]
    exact .idle ht rfl hends.answers rfl

variable (node) in
theorem isAttached_exports (hname : options.volumeName? = some name) (hused : used name) :
    ExportsTo timing targets used p (.isAttached options node) exported
      ({ Status.success with attached := exported name }, exported) := by
  have htold : decide ((p.cloud.serving (targets name)).map Export.state = some .active) =
      exported name := by
    rw [ht.served name hused]
    cases exported name <;> rfl
  have hends : Ends World.act p (FileStorage.isAttached timing.limits options node) _ p :=
    ends_named hname (ends_aboutTarget h.opens (h.resolves hused) (leads_tellExport h.listable).ends)
  rw [htold] at hends
  exact .idle ht rfl hends.answers rfl

/-- **Each call-out answers as `Exported.answer` says** and keeps the tie to the set. -/
theorem exportStep (c : VolumeCallOut) (hused : ∀ name, c.fileSystem? = some name → used name) :
    ExportsTo timing targets used p c exported (exported.answer targets c) := by
  cases c with
  | detach volume node => exact detach_exports node h ht (hused volume rfl)
  | attach options node =>
    simp only [Exported.answer]
    cases hname : options.volumeName? with
    | some name => exact attach_exports node h ht hname (hused name hname)
    | none =>
      have hends : Ends World.act p (FileStorage.attach timing.limits options node) _ p :=
        ends_nameless hname _
      refine .idle ht rfl hends.answers fun name hother => ?_
      rw [hname] at hother
      cases hother
  | isAttached options node =>
    simp only [Exported.answer]
    cases hname : options.volumeName? with
    | some name => exact isAttached_exports node h ht hname (hused name hname)
    | none =>
      have hends : Ends World.act p (FileStorage.isAttached timing.limits options node) _ p :=
        ends_nameless hname _
      exact .idle ht rfl hends.answers rfl

end Exporting

end Step

/-! ## Any number of call-outs -/

section Run

variable {timing : Timing} {targets : String → ExportTarget} {used : String → Prop}
  {session : Session} {w : World} {room : Nat} {exported : Exported} {options : Options}
  {name node : String}

theorem throughout_named {rest : String → DriverRun Status} (h : w.cloud.Orderly targets used)
    (hrest : ∀ name, options.volumeName? = some name →
      Fallible.Throughout World.act (fun v => v.cloud.Orderly targets used) (rest name) w) :
    Fallible.Throughout World.act (fun v => v.cloud.Orderly targets used)
      (volumeOf options >>= rest) w := by
  rw [volumeOf]
  cases hname : options.volumeName? with
  | none =>
    have hnone : Fallible.Throughout World.act (fun v => v.cloud.Orderly targets used)
        (throw .missingVolumeName : DriverRun String) w := Fallible.throughout_throw _ h
    exact hnone.bind fun _ _ hrun _ => by cases hrun
  | some name =>
    have hsome : Fallible.Throughout World.act (fun v => v.cloud.Orderly targets used)
        (pure name : DriverRun String) w := Fallible.throughout_pure name h
    refine hsome.bind fun _ _ hrun _ => ?_
    cases hrun
    exact hrest name hname

/-- Exports stay `Cloud.Orderly` throughout a call-out. -/
theorem throughout_exportFlow (hw : w.Calm)
    (h : Exporting timing.limits targets used session w.picture room)
    (ho : w.cloud.Orderly targets used) {c : VolumeCallOut}
    (hused : ∀ name, c.fileSystem? = some name → used name) :
    (c.exportFlow timing).Throughout World.act (fun v => v.cloud.Orderly targets used) w := by
  have hrest : ∀ name rest, used name →
      Fallible.Only (ControlAction (Concerns (targets name))) (rest (targets name)) →
      Fallible.Throughout World.act (fun v => v.cloud.Orderly targets used)
        (aboutTarget timing.limits name rest) w :=
    fun name rest hname honly => throughout_aboutTarget h.opens (h.resolves hname) (h.isTarget hname)
      honly hw rfl ho
  cases c with
  | attach options node =>
    refine throughout_answer (throughout_named ho fun name hname => ?_)
    exact hrest name _ (hused name hname) (only_exportTo timing.limits (targets name))
  | isAttached options node =>
    refine throughout_answer (throughout_named ho fun name hname => ?_)
    exact hrest name _ (hused name hname) (only_tellExport timing.limits (targets name))
  | detach volume node =>
    refine throughout_answer ?_
    exact hrest volume _ (hused volume rfl) (only_undoExport timing.limits (targets volume))

/-- What a call-out makes of a world that holds what the set says. -/
structure ExportsOn (timing : Timing) (targets : String → ExportTarget) (used : String → Prop)
    (session : Session) (w : World) (c : VolumeCallOut) (exported : Exported) (room : Nat) : Prop where
  status : ((c.exportFlow timing).run World.act w).1 = (exported.answer targets c).1
  calm : ((c.exportFlow timing).run World.act w).2.Calm
  exporting : Exporting timing.limits targets used session
    ((c.exportFlow timing).run World.act w).2.picture room
  exports : ((c.exportFlow timing).run World.act w).2.picture.cloud.Exports targets used
    (exported.answer targets c).2
  orderly : (c.exportFlow timing).Throughout World.act (fun v => v.cloud.Orderly targets used) w
  idle : (exported.answer targets c).2 = exported →
    ((c.exportFlow timing).run World.act w).2.picture = w.picture
  effect : ExportEffect targets exported w.cloud.exports
    ((c.exportFlow timing).run World.act w).2.cloud.exports c

/-- The set and the world stay together through a call-out: `Cloud.Exports` holds before and after. -/
theorem exports_step (hw : w.Calm)
    (h : Exporting timing.limits targets used session w.picture (room + 1))
    (ht : w.picture.cloud.Exports targets used exported) {c : VolumeCallOut}
    (hused : ∀ name, c.fileSystem? = some name → used name) :
    ExportsOn timing targets used session w c exported room := by
  have horderly := throughout_exportFlow hw h (ht.orderly.of_eq rfl rfl rfl) hused
  obtain ⟨p', hanswers, hscene, hlength, hexports, hidle, heffect⟩ := exportStep h ht c hused
  obtain ⟨hstatus, hcalm, rfl⟩ := hanswers w hw rfl
  exact {
    status := hstatus
    calm := hcalm
    exporting := h.of_scene hscene hlength
    exports := hexports (horderly.last.of_eq rfl rfl rfl)
    orderly := horderly
    idle := hidle
    effect := heffect }

/-- The set and the world stay together through any number of call-outs, as `answerAll` and `answerInTurn`
    go through them. -/
theorem exports_run (callOuts : List VolumeCallOut) (hw : w.Calm)
    (h : Exporting timing.limits targets used session w.picture (room + callOuts.length))
    (ht : w.picture.cloud.Exports targets used exported)
    (hused : ∀ c ∈ callOuts, ∀ name, c.fileSystem? = some name → used name) :
    (answerInTurn (callOuts.map (VolumeCallOut.exportFlow timing)) w).1 =
        (Exported.answerAll targets callOuts exported).1 ∧
      (answerInTurn (callOuts.map (VolumeCallOut.exportFlow timing)) w).2.Calm ∧
      Exporting timing.limits targets used session
        (answerInTurn (callOuts.map (VolumeCallOut.exportFlow timing)) w).2.picture room ∧
      (answerInTurn (callOuts.map (VolumeCallOut.exportFlow timing)) w).2.picture.cloud.Exports
        targets used (Exported.answerAll targets callOuts exported).2 := by
  induction callOuts generalizing w exported with
  | nil => exact ⟨rfl, hw, h, ht⟩
  | cons c rest ih =>
    have hstep := exports_step hw h ht (hused c List.mem_cons_self)
    obtain ⟨hstatuses, hlast⟩ := ih hstep.calm hstep.exporting hstep.exports fun c' hc' =>
      hused c' (List.mem_cons_of_mem _ hc')
    refine ⟨?_, hlast⟩
    simp only [List.map_cons, answerInTurn, Exported.answerAll, hstep.status, hstatuses]

/-- In the beginning the set is `Exported.none` and no export is live. -/
theorem exports_none {c : Cloud} (h : c.SoundExports)
    (hdead : ∀ e ∈ c.exports, e.state.isLive = false) : c.Exports targets used .none := by
  refine ⟨Cloud.orderly_of_dead h hdead, fun name _ => ?_⟩
  have hnone : c.serving (targets name) = none := by
    rw [Cloud.serving, List.find?_eq_none]
    intro e he
    simp [isLiveTo, hdead e he]
  rw [hnone]
  rfl

end Run

/-- **Call-outs for file systems, one after the other, answer as a set does.** Let no export be live to
    begin with, and let each file system that is named be located at a target without a slash in its
    address. Then all answers are those of the set. Whatever call-outs came before, exactly the file
    systems in the set are served, by an export in place; the next call-out adds an export only if it
    attaches a file system that is not in the set, and leaves the control plane as it is, but for its
    records, if it leaves the set as it is. At no point on the way is more than one export of a file
    system live, or are live exports of two file systems at one path. `hlong` to `htargetPages` let all
    listings be read to their ends. -/
theorem callOuts_refine_exported (timing : Timing) {w : World} {session : Session}
    (hsession : w.session = .ok session) (hcalm : w.Calm) (hsound : w.cloud.SoundExports)
    (hdead : ∀ e ∈ w.cloud.exports, e.state.isLive = false)
    (hsize : w.cloud.pageSize ≠ some 0) (hretries : 2 ≤ timing.limits.poll.retries)
    (targets : String → ExportTarget) (callOuts : List VolumeCallOut)
    (hused : ∀ c ∈ callOuts, ∀ name, c.fileSystem? = some name →
      w.cloud.Exportable name (targets name))
    (hlong : w.cloud.exports.length + callOuts.length < UInt64.size)
    (hpages : w.cloud.exports.length + callOuts.length < timing.limits.pages)
    (htargetsLong : w.cloud.mountTargets.length < UInt64.size)
    (htargetPages : w.cloud.mountTargets.length < timing.limits.pages) :
    let after := fun callOuts : List VolumeCallOut =>
      answerInTurn (callOuts.map (VolumeCallOut.exportFlow timing)) w
    let expected := fun callOuts => Exported.answerAll targets callOuts .none
    (after callOuts).1 = (expected callOuts).1 ∧
    (∀ before rest, callOuts = before ++ rest →
      ∀ name, (∃ c ∈ callOuts, c.fileSystem? = some name) →
        ((after before).2.cloud.serving (targets name)).map Export.state =
          if (expected before).2 name then some .active else none) ∧
    ∀ before next rest, callOuts = before ++ next :: rest →
      let found := (after before).2
      let exported := (expected before).2
      let left := ((next.exportFlow timing).run World.act found).2
      (∀ v ∈ (next.exportFlow timing).visits World.act found, v.cloud.Exclusive) ∧
      ((exported.answer targets next).2 = exported →
        left.cloud.unrecorded = found.cloud.unrecorded) ∧
      ExportEffect targets exported found.cloud.exports left.cloud.exports next := by
  intro after expected
  let used := fun name => ∃ c ∈ callOuts, c.fileSystem? = some name
  have hsound' : w.picture.cloud.SoundExports := hsound.unrecorded
  have hnamed : ∀ c ∈ callOuts, ∀ name, c.fileSystem? = some name → used name :=
    fun c hc name hname => ⟨c, hc, hname⟩
  have hexporting : Exporting timing.limits targets used session w.picture
      (0 + callOuts.length) := by
    refine ⟨hsession, ?_, hsize, htargetsLong, htargetPages, ?_, ?_, hretries⟩
    · rintro name ⟨c, hc, hname⟩
      obtain ⟨located, plain⟩ := hused c hc name hname
      exact ⟨located.unrecorded, plain⟩
    · rwa [Nat.zero_add]
    · rwa [Nat.zero_add]
  have hnone : w.picture.cloud.Exports targets used .none := exports_none hsound' hdead
  -- Where call-outs are left, the ones before have kept the set and the world together.
  have hbefore : ∀ before rest, callOuts = before ++ rest →
      (after before).2.Calm ∧
        Exporting timing.limits targets used session (after before).2.picture (0 + rest.length) ∧
        (after before).2.picture.cloud.Exports targets used (expected before).2 := by
    intro before rest hsplit
    have hroom : 0 + callOuts.length = 0 + rest.length + before.length := by
      rw [hsplit, List.length_append]
      omega
    rw [hroom] at hexporting
    exact (exports_run before hcalm hexporting hnone fun c hc =>
      hnamed c (hsplit ▸ List.mem_append_left _ hc)).2
  refine ⟨(exports_run callOuts hcalm hexporting hnone hnamed).1, ?_, ?_⟩
  · intro before rest hsplit name hname
    exact (hbefore before rest hsplit).2.2.served name hname
  · intro before next rest hsplit
    obtain ⟨hcalm', hexporting', hexports'⟩ := hbefore before (next :: rest) hsplit
    have hroom : Exporting timing.limits targets used session (after before).2.picture
        (0 + rest.length + 1) := hexporting'
    have hstep := exports_step hcalm' hroom hexports'
      (hnamed next (hsplit ▸ List.mem_append_right _ List.mem_cons_self))
    refine ⟨fun v hv => ?_, fun hsame => congrArg Picture.cloud (hstep.idle hsame), hstep.effect⟩
    exact (hstep.orderly v hv).exclusive fun _ _ => hexporting'.paths_differ

/-- Two file systems that are exported by the same mount target, and an export of the first one that was
    deleted before. -/
def sharedTargetWorld : World where
  cloud := {
    lastId := 1
    pageSize := some 1
    fileSystems := [⟨"f", "domain", "compartment"⟩, ⟨"g", "domain", "compartment"⟩]
    mountTargets := [⟨"elsewhere", "another domain", "set", [], .active⟩,
      ⟨"failed", "domain", "set", [], .other "FAILED"⟩, ⟨"target", "domain", "set", ["ip"], .active⟩]
    privateIps := [⟨"ip", "10.0.0.2"⟩]
    exports := [⟨Cloud.madeUpId "export" 1, "set", "f", "/mnt/10.0.0.2/f", .deleted⟩] }
  config := some {}

/-- Where the file systems of `sharedTargetWorld` are exported. -/
def sharedTarget (name : String) : ExportTarget :=
  ⟨⟨name, "domain", "compartment"⟩, ⟨"target", "domain", "set", ["ip"], .active⟩, "10.0.0.2"⟩

/-- The file systems of `sharedTargetWorld` come and go, and one is asked for that is gone. -/
def comings : List VolumeCallOut :=
  [.attach (naming "f") "node-1", .attach (naming "g") "node-2", .attach (naming "f") "node-2",
    .isAttached (naming "f") "node-1", .detach "f" "node-1", .detach "f" "node-2",
    .isAttached (naming "f") "node-1", .isAttached (naming "g") "node-1", .attach (naming "f") "node-3"]

theorem soundExports_sharedTargetWorld : sharedTargetWorld.cloud.SoundExports where
  ids := by decide
  fresh := by
    intro e he k hk
    obtain rfl := List.mem_singleton.1 he
    exact fun heq => Nat.ne_of_lt hk (Cloud.madeUpId_injective _ heq)
  unscripted := by decide

/-- Through `comings`, the second file system stays exported while the first one goes and comes back. -/
theorem callOuts_refine_exported_comings :
    let run := answerInTurn (comings.map (VolumeCallOut.exportFlow {})) sharedTargetWorld
    run.1.map Status.outcome = [.success, .success, .success, .success, .success, .failure, .success,
      .success, .success] ∧
    run.1 = (Exported.answerAll sharedTarget comings .none).1 := by
  refine ⟨by decide +kernel, ?_⟩
  refine (callOuts_refine_exported {} (w := sharedTargetWorld) rfl (by decide)
    soundExports_sharedTargetWorld (by decide) (by decide) (by decide) sharedTarget comings ?_
    (by decide) (by decide) (by decide) (by decide)).1
  have hf : sharedTargetWorld.cloud.Exportable "f" (sharedTarget "f") :=
    ⟨⟨rfl, rfl, "ip", [], rfl, rfl⟩, by decide⟩
  have hg : sharedTargetWorld.cloud.Exportable "g" (sharedTarget "g") :=
    ⟨⟨rfl, rfl, "ip", [], rfl, rfl⟩, by decide⟩
  intro c hc name hname
  simp only [comings, List.mem_cons, List.not_mem_nil, or_false] at hc
  rcases hc with rfl | rfl | rfl | rfl | rfl | rfl | rfl | rfl | rfl <;> cases hname <;> assumption

/-- In `bareTargetWorld`, an address that is not that of the first active mount target does not help a set
    of exports either: of two call-outs where all else is as it should be, neither answers as the set
    does. -/
theorem callOuts_at_bareTarget :
    bareTargetWorld.session = .ok mountableSession ∧ bareTargetWorld.Calm ∧
    bareTargetWorld.cloud.SoundExports ∧ bareTargetWorld.cloud.exports = [] ∧
    bareTargetWorld.cloud.pageSize ≠ some 0 ∧
    (bareTargetWorld.cloud.fileSystems.find? fun f => f.id = "ocid1.filesystem.f") =
      some mountableTarget.fileSystem ∧
    (∃ m ∈ bareTargetWorld.cloud.mountTargets,
      m.availabilityDomain = mountableTarget.fileSystem.availabilityDomain ∧ m.state = .active ∧
        m.privateIpIds = ["ip"]) ∧
    (bareTargetWorld.cloud.privateIps.find? fun i => i.id = "ip") = some ⟨"ip", "10.0.0.2"⟩ ∧
    (answerInTurn
      ([.attach (naming "ocid1.filesystem.f") "node-1",
        .isAttached (naming "ocid1.filesystem.f") "node-1"].map (VolumeCallOut.exportFlow {}))
      bareTargetWorld).1 =
      [.failure "mount target bare has zero private IPs",
        .failure "mount target bare has zero private IPs"] := by
  have hsound := soundExports_storageWorld
  exact ⟨rfl, by decide, ⟨hsound.ids, hsound.fresh, hsound.unscripted⟩, rfl, by decide, rfl,
    ⟨mountableTarget.mountTarget, by decide, rfl, rfl, rfl⟩, rfl, by decide +kernel⟩

end InMemory

end VolumeDriver
