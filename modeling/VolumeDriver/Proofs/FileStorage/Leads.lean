import VolumeDriver.Driver.FileStorage
import VolumeDriver.Proofs.InMemory.Exports
import VolumeDriver.Proofs.InMemory.Listing
import VolumeDriver.Proofs.InMemory.Settled
set_option autoImplicit false

/-! # Where requests about exports lead

For each flow of the controller side that exports file systems: what it leads to (`ControllerLeads`), by the
export that serves the target (`Cloud.serving`). The target itself is up to the scene. -/

namespace VolumeDriver.InMemory

open ControlPlane Controller

variable {p : Picture} {limits : Limits} {t : ExportTarget} {e : Export}

/-- Whether the listings of exports can be read to their ends: a page has room for an export, and there are
    fewer exports than `limits.pages`. -/
structure Cloud.ListableExports (c : Cloud) (limits : Limits) : Prop where
  size : c.pageSize ≠ some 0
  long : c.exports.length < UInt64.size
  pages : c.exports.length < limits.pages

/-- Records have no part in `Cloud.SoundExports`. -/
theorem Cloud.SoundExports.unrecorded {c : Cloud} (h : c.SoundExports) : c.unrecorded.SoundExports :=
  ⟨h.ids, h.fresh, h.unscripted⟩

/-! ## Finding -/

/-- **The scene decides what `resolveTarget` comes to**: where a file system is exported, or why it cannot
    be. -/
theorem settled_resolveTarget {s : Picture} (limits : Limits) (compartmentId fileSystemId : String) :
    Settled s (resolveTarget limits compartmentId fileSystemId) := by
  refine ((settled_request (.getFileSystem _) trivial).wrap _).bind fun fileSystem => ?_
  refine Settled.bind ?_ fun mountTarget => ?_
  · refine (settled_findOnPages (settled_throw _)
      (fun page => (settled_request (.listMountTargets _ _ page) trivial).wrap _) _ _).bind
        fun found => ?_
    cases found with
    | some found => exact settled_pure _
    | none => exact settled_throw _
  · split
    · exact settled_throw _
    · exact ((settled_request (.getPrivateIp _) trivial).wrap _).bind fun _ => settled_pure _

/-- Whether a file system is known, and the `ExportTarget` that it is exported at: the first active mount
    target in its domain, and the first address of that. -/
structure Cloud.Locates (c : Cloud) (fileSystemId : String) (t : ExportTarget) : Prop where
  fileSystem : (c.fileSystems.find? fun f => f.id = fileSystemId) = some t.fileSystem
  mountTarget : (c.mountTargets.find? fun m =>
    m.availabilityDomain = t.fileSystem.availabilityDomain && m.state = .active) = some t.mountTarget
  address : ∃ ip rest, t.mountTarget.privateIpIds = ip :: rest ∧
    (c.privateIps.find? fun i => i.id = ip).map PrivateIp.ipAddress = some t.address

/-- Records have no part in `Cloud.Locates`. -/
theorem Cloud.Locates.unrecorded {c : Cloud} {fileSystemId : String} (h : c.Locates fileSystemId t) :
    c.unrecorded.Locates fileSystemId t :=
  ⟨h.fileSystem, h.mountTarget, h.address⟩

section Locating

variable {compartmentId fileSystemId : String} (h : p.cloud.Locates fileSystemId t)

include h

theorem leads_getFileSystem :
    ControllerLeads p (requestExport (.getFileSystem fileSystemId)) (.ok t.fileSystem) p (· = p) := by
  have hrespond : p.cloud.respond (.getFileSystem fileSystemId) = (.ok t.fileSystem, p.cloud) :=
    congrArg (fun found => (Cloud.fetch "GetFileSystem" fileSystemId found, p.cloud)) h.fileSystem
  exact (leads_answered (E := (· = p)) hrespond rfl).wrap _

variable (hsize : p.cloud.pageSize ≠ some 0) (hlong : p.cloud.mountTargets.length < UInt64.size)
  (hpages : p.cloud.mountTargets.length < limits.pages)

include hsize hlong hpages

theorem leads_activeMountTarget :
    ControllerLeads p (activeMountTarget limits compartmentId t.fileSystem.availabilityDomain)
      (.ok t.mountTarget) p (· = p) := by
  let domain := t.fileSystem.availabilityDomain
  let items := p.cloud.mountTargets.filter fun m => m.availabilityDomain = domain
  have hshort : items.length ≤ p.cloud.mountTargets.length := List.length_filter_le _ _
  have hfirst : items.find? (fun m => m.state = .active) = some t.mountTarget := by
    rw [List.find?_filter, ← h.mountTarget]
    congr 1
    funext m
    simp [domain, Bool.decide_and]
  have hlist : ∀ page, ControllerLeads p
      (requestExport (.listMountTargets compartmentId domain page))
      (.ok (p.cloud.paginate items page)) p (· = p) :=
    fun page => (leads_request (E := (· = p)) (.listMountTargets _ _ page) rfl).wrap _
  have hsearch := leads_findOnPages (fun m => m.state = .active)
    (throw (.controlPlane (.endless "ListMountTargets" limits.pages)))
    hlist hsize (Nat.lt_of_le_of_lt hshort hlong) (Nat.lt_of_le_of_lt hshort hpages)
  rw [hfirst] at hsearch
  exact hsearch.bind (leads_pure _)

theorem leads_resolveTarget :
    ControllerLeads p (resolveTarget limits compartmentId fileSystemId) (.ok t) p (· = p) := by
  refine (leads_getFileSystem h).bind ?_
  refine (leads_activeMountTarget h hsize hlong hpages).bind ?_
  obtain ⟨ip, rest, hip, haddress⟩ := h.address
  obtain ⟨found, hfound, hfoundAddress⟩ := Option.map_eq_some_iff.1 haddress
  have hrespond : p.cloud.respond (.getPrivateIp ip) = (.ok found, p.cloud) :=
    congrArg (fun found => (Cloud.fetch "GetPrivateIp" ip found, p.cloud)) hfound
  have hask : ControllerLeads p (requestExport (.getPrivateIp ip)) (.ok found) p (· = p) :=
    (leads_answered (E := (· = p)) hrespond rfl).wrap _
  rw [hip]
  refine hask.bind ?_
  rw [hfoundAddress]
  exact leads_pure t

end Locating

/-- The target of a file system that is located is found by `resolveTarget` in any picture of the scene. -/
theorem resolves_of_locates {fileSystemId : String} (compartmentId : String)
    (h : p.cloud.Locates fileSystemId t) (hsize : p.cloud.pageSize ≠ some 0)
    (hlong : p.cloud.mountTargets.length < UInt64.size)
    (hpages : p.cloud.mountTargets.length < limits.pages) {q : Picture} (hq : q.scene = p.scene) :
    ControllerLeads q (resolveTarget limits compartmentId fileSystemId) (.ok t) q (· = q) := by
  have hfixed : q.cloud.fixed = p.cloud.fixed := congrArg Picture.cloud hq
  have hmountTargets : q.cloud.mountTargets = p.cloud.mountTargets :=
    (congrArg Cloud.mountTargets hfixed :)
  have hlocates : q.cloud.Locates fileSystemId t :=
    ⟨(congrArg Cloud.fileSystems hfixed :) ▸ h.fileSystem, hmountTargets ▸ h.mountTarget,
      (congrArg Cloud.privateIps hfixed :) ▸ h.address⟩
  have hpageSize : q.cloud.pageSize = p.cloud.pageSize := (congrArg Cloud.pageSize hfixed :)
  exact leads_resolveTarget hlocates (hpageSize ▸ hsize) (hmountTargets ▸ hlong)
    (hmountTargets ▸ hpages)

/-- The exports that are listed when the export of a target is looked for. -/
def Cloud.exportsFor (c : Cloud) (t : ExportTarget) : List Export :=
  c.exports.filter fun e =>
    e.exportSetId = t.mountTarget.exportSetId && e.fileSystemId = t.fileSystem.id

/-- The first live export at the path of a target in `Cloud.exportsFor` is the one that serves the
    target. -/
theorem Cloud.find?_exportsFor (c : Cloud) (t : ExportTarget) :
    ((c.exportsFor t).find? fun e => e.path = t.path && e.state.isLive) = c.serving t := by
  rw [exportsFor, List.find?_filter, Cloud.serving]
  congr 1
  funext e
  simp [isLiveTo, Bool.decide_and]

theorem Cloud.length_exportsFor_le (c : Cloud) (t : ExportTarget) :
    (c.exportsFor t).length ≤ c.exports.length :=
  List.length_filter_le _ _

theorem leads_findExport (h : p.cloud.ListableExports limits) :
    ControllerLeads p (findExport limits t) (.ok (p.cloud.serving t)) p (· = p) := by
  have hshort := p.cloud.length_exportsFor_le t
  have hlist : ∀ page, ControllerLeads p
      (requestExport (.listExports t.mountTarget.exportSetId t.fileSystem.id page))
      (.ok (p.cloud.paginate (p.cloud.exportsFor t) page)) p (· = p) :=
    fun page => (leads_request (E := (· = p)) (.listExports _ _ page) rfl).wrap _
  have hsearch := leads_findOnPages (fun e => e.path = t.path && e.state.isLive)
    (throw (.controlPlane (.endless "ListExports" limits.pages)))
    hlist h.size (Nat.lt_of_le_of_lt hshort h.long) (Nat.lt_of_le_of_lt hshort h.pages)
  rw [Cloud.find?_exportsFor] at hsearch
  exact hsearch

/-! ## Creating -/

/-- What follows in `createExport` the answer to a request for an export. -/
def takeExport (limits : Limits) (t : ExportTarget) : Except Fault Export → Run ExportFault Export
  | .ok created => pure created
  | .error fault =>
    if fault.isConflict then do
      match ← findExport limits t with
      | some existing => return existing
      | none => throw (.controlPlane fault)
    else throw (.controlPlane fault)

/-- The part of `createExport` for a target that is not served yet. -/
def exportAnew (limits : Limits) (t : ExportTarget) : Run ExportFault Export :=
  (request (.createExport t.mountTarget.exportSetId t.fileSystem.id t.path)).outcome >>=
    takeExport limits t

theorem createExport_eq : createExport limits t =
    findExport limits t >>= fun found =>
      match found with
      | some existing => pure existing
      | none => exportAnew limits t := by
  refine congrArg (findExport limits t >>= ·) (funext fun found => ?_)
  cases found with
  | some existing => rfl
  | none =>
    refine congrArg ((request (.createExport _ _ _)).outcome >>= ·) (funext fun answer => ?_)
    cases answer <;> rfl

/-- After a fault `takeExport` finds no export for a target that is not served. -/
theorem leads_takeExport_error (h : p.cloud.ListableExports limits) (hs : p.cloud.serving t = none)
    (fault : Fault) :
    ControllerLeads p (takeExport limits t (.error fault)) (.error (.controlPlane fault)) p
      (· = p) := by
  rw [takeExport]
  split
  · have hfind := leads_findExport (t := t) h
    rw [hs] at hfind
    exact hfind.bind (leads_throw _)
  · exact leads_throw _

/-- In `createExport`, a target that is served is not exported again. -/
theorem leads_createExport_served (h : p.cloud.ListableExports limits)
    (hs : p.cloud.serving t = some e) :
    ControllerLeads p (createExport limits t) (.ok e) p (· = p) := by
  have hfind := leads_findExport (t := t) h
  rw [hs] at hfind
  rw [createExport_eq]
  exact hfind.bind (leads_pure e)

theorem leads_createExport_free (h : p.cloud.ListableExports limits) (hfree : ¬p.cloud.isTaken t) :
    ControllerLeads p (createExport limits t) (.ok (p.cloud.newExport t))
      { p with cloud := p.cloud.withNewExport t } (· = p) := by
  have hs := Cloud.serving_of_not_taken hfree
  have hfind := leads_findExport (t := t) h
  rw [hs] at hfind
  have hask := leads_answered (E := (· = p)) (Cloud.respond_createExport_free hfree) rfl
  rw [createExport_eq]
  refine hfind.bind (hask.bind_outcome (leads_pure _) ?_)
  rintro fault q rfl
  exact .inr ⟨_, q, leads_takeExport_error h hs fault, rfl⟩

theorem leads_createExport_taken (h : p.cloud.ListableExports limits)
    (hs : p.cloud.serving t = none) (htaken : p.cloud.isTaken t) :
    ∃ fault, ControllerLeads p (createExport limits t) (.error fault) p (· = p) := by
  obtain ⟨fault, hrespond⟩ : ∃ fault, p.cloud.respond
      (.createExport t.mountTarget.exportSetId t.fileSystem.id t.path) = (.error fault, p.cloud) :=
    ⟨_, Cloud.respond_createExport_taken htaken⟩
  have hfind := leads_findExport (t := t) h
  rw [hs] at hfind
  have hask := leads_answered (E := (· = p)) hrespond rfl
  refine ⟨.controlPlane fault, ?_⟩
  rw [createExport_eq]
  refine hfind.bind (hask.bind_outcome (leads_takeExport_error h hs fault) ?_)
  rintro fault q rfl
  exact .inr ⟨_, q, leads_takeExport_error h hs fault, rfl⟩

/-! ## Waiting -/

/-- The picture in which the export with this `id` is in a `state`. -/
def Picture.withExport (p : Picture) (id : String) (state : ExportState) : Picture :=
  { p with cloud := p.cloud.setExportState id state }

/-- The number of looks it takes `waitForActive` to see a live export in place. -/
def looksForExport : ExportState → Nat
  | .active => 1
  | _ => 2

/-- One look of `waitForActive`. -/
def lookForActive (id : String) : Run ExportFault (Option Export) := do
  let found : Export ← requestExport (.getExport id)
  match found.state with
  | .creating => return none
  | .active => return some found
  | state => throw (.unexpectedState state "create")

theorem waitForActive_eq (id : String) : waitForActive limits id =
    pollTimes limits.poll.interval (.retriesExceeded limits.poll.retries "creating")
      (lookForActive id) limits.poll.retries :=
  rfl

section Looks

variable {id : String} {E : Picture → Prop} (h : p.cloud.exportStates.Drained)
  (he : p.cloud.exports.find? (Cloud.isExport id) = some e)

include h he

theorem leads_getExport (hE : E p) :
    ControllerLeads p (requestExport (.getExport id)) (.ok e)
      (p.withExport id (Cloud.nextExportState e.state)) E :=
  (leads_answered (Cloud.respond_getExport h he) hE).wrap _

theorem leads_lookForActive_active (hstate : e.state = .active) (hE : E p) :
    ControllerLeads p (lookForActive id) (.ok (some e)) p E := by
  have hlook := leads_getExport h he hE
  have hsame : p.withExport id (Cloud.nextExportState e.state) = p := by
    rw [Picture.withExport, Cloud.setExportState_of_eq he (by rw [hstate]; rfl)]
  rw [hsame] at hlook
  refine hlook.bind ?_
  rw [hstate]
  exact leads_pure _

theorem leads_lookForActive_creating (hstate : e.state = .creating) (hE : E p) :
    ControllerLeads p (lookForActive id) (.ok none) (p.withExport id .active) E := by
  have hlook := leads_getExport h he hE
  rw [hstate] at hlook
  refine hlook.bind ?_
  rw [hstate]
  exact leads_pure _

/-- A `waitForActive` ends with a live export in place, if it may look as often as `looksForExport` says. -/
theorem leads_waitForActive (hlive : e.state.isLive)
    (hretries : looksForExport e.state ≤ limits.poll.retries)
    (hE : E p) (hE' : E (p.withExport id .active)) :
    ControllerLeads p (waitForActive limits id) (.ok { e with state := .active })
      (p.withExport id .active) E := by
  rw [waitForActive_eq]
  cases hstate : e.state with
  | active =>
    rw [hstate] at hretries
    have hsame : p.withExport id .active = p := by
      rw [Picture.withExport, Cloud.setExportState_of_eq he hstate]
    have he' : { e with state := .active } = e := by rw [← hstate]
    rw [hsame, he']
    exact leads_pollTimes_first hretries (leads_lookForActive_active h he hstate hE)
  | creating =>
    rw [hstate] at hretries
    have hplace := leads_lookForActive_active (p := p.withExport id .active) h
      (Cloud.find?_setExportState he) rfl hE'
    exact leads_pollTimes_second hretries (leads_lookForActive_creating h he hstate hE) hplace
  | _ =>
    rw [hstate] at hlive
    cases hlive

/-- A `waitForActive` that may not look as often as `looksForExport` says is in vain. -/
theorem leads_waitForActive_short (hlive : e.state.isLive)
    (hretries : limits.poll.retries < looksForExport e.state) :
    ∃ fault p', ControllerLeads p (waitForActive limits id) (.error fault) p' (fun _ => True) := by
  rw [waitForActive_eq]
  cases hstate : e.state with
  | active =>
    rw [hstate] at hretries
    rw [Nat.lt_one_iff.1 hretries]
    exact ⟨_, p, leads_throw _⟩
  | creating =>
    rw [hstate] at hretries
    exact ⟨_, leads_pollTimes_short hretries
      (leads_lookForActive_creating h he hstate trivial)⟩
  | _ =>
    rw [hstate] at hlive
    cases hlive

end Looks

/-! ## Deleting -/

/-- One look of `waitForDeleted`. -/
def lookForDeleted (id : String) : Run ExportFault (Option Unit) := do
  match ← (request (.getExport id)).outcome with
  | .error fault => if fault.isNotFound then return some () else throw (.controlPlane fault)
  | .ok found =>
    match Export.state found with
    | .deleting => return none
    | .deleted => return some ()
    | state => throw (.unexpectedState state "delete")

theorem waitForDeleted_eq (id : String) : waitForDeleted limits id =
    pollTimes limits.poll.interval (.retriesExceeded limits.poll.retries "deleting")
      (lookForDeleted id) limits.poll.retries :=
  rfl

section Deleting

variable {id : String} (h : p.cloud.exportStates.Drained)

include h

theorem ends_getExport (he : p.cloud.exports.find? (Cloud.isExport id) = some e) :
    Ends World.controlAnswer p (request (.getExport id)) (.ok e)
      (p.withExport id (Cloud.nextExportState e.state)) :=
  (leads_answered (E := fun _ => True) (Cloud.respond_getExport h he) trivial).ends

/-- A `waitForDeleted` ends with the export gone that is being deleted. A fault that says that it is gone
    would end it as well. -/
theorem ends_waitForDeleted (he : p.cloud.exports.find? (Cloud.isExport id) = some e)
    (hstate : e.state = .deleting) (hretries : 2 ≤ limits.poll.retries) :
    Ends World.controlAnswer p (waitForDeleted limits id) (.ok ()) (p.withExport id .deleted) := by
  rw [waitForDeleted_eq]
  have hfirst : Ends World.controlAnswer p (lookForDeleted id) (.ok none)
      (p.withExport id .deleted) := by
    have hlook := ends_getExport h he
    rw [hstate] at hlook
    refine hlook.outcome.bind ?_
    dsimp only
    rw [hstate]
    exact ends_pure none
  have he' : (p.withExport id .deleted).cloud.exports.find? (Cloud.isExport id) =
      some { e with state := .deleted } :=
    Cloud.find?_setExportState he
  have hsecond : Ends World.controlAnswer (p.withExport id .deleted) (lookForDeleted id)
      (.ok (some ())) (p.withExport id .deleted) := by
    have hlook := ends_getExport (p := p.withExport id .deleted) h he'
    have hsame : (p.withExport id .deleted).withExport id .deleted = p.withExport id .deleted := by
      rw [Picture.withExport, Picture.withExport, Cloud.setExportState_twice]
    exact (hsame ▸ hlook).outcome.bind (ends_pure _)
  exact Ends.pollTimes_second hretries hfirst hsecond

/-- The export that serves a target is deleted by `deleteExport`. -/
theorem ends_deleteExport (hlist : p.cloud.ListableExports limits) (hs : p.cloud.serving t = some e)
    (he : p.cloud.exports.find? (Cloud.isExport e.id) = some e)
    (hretries : 2 ≤ limits.poll.retries) :
    Ends World.controlAnswer p (deleteExport limits t) (.ok ()) (p.withExport e.id .deleted) := by
  have hfind := leads_findExport (t := t) hlist
  rw [hs] at hfind
  have hdelete : ControllerLeads p (requestExport (.deleteExport e.id)) (.ok ())
      (p.withExport e.id .deleting) fun _ => True :=
    (leads_answered (Cloud.respond_deleteExport he) trivial).wrap _
  have hwait : Ends World.controlAnswer (p.withExport e.id .deleting) (waitForDeleted limits e.id)
      (.ok ()) ((p.withExport e.id .deleting).withExport e.id .deleted) :=
    ends_waitForDeleted h (Cloud.find?_setExportState he) rfl hretries
  have htwice : (p.withExport e.id .deleting).withExport e.id .deleted =
      p.withExport e.id .deleted := by
    simp only [Picture.withExport, Cloud.setExportState_twice]
  rw [htwice] at hwait
  exact hfind.ends.bind (hdelete.ends.bind hwait)

end Deleting

/-! ## Attaching -/

/-- What follows in `FileStorage.attach` when the target is known. -/
def exportTo (limits : Limits) (t : ExportTarget) : DriverRun Status := do
  let requested ← onController .export (createExport limits t)
  let _ ← onController .export (waitForActive limits requested.id)
  return { Status.success with device := some t.path }

/-- When `createExport` leads to an export that is live, `exportTo` ends with it in place. -/
theorem leads_exportTo {p' : Picture} {E : Picture → Prop}
    (hcreate : ControllerLeads p (createExport limits t) (.ok e) p' E)
    (h : p'.cloud.exportStates.Drained)
    (he : p'.cloud.exports.find? (Cloud.isExport e.id) = some e) (hlive : e.state.isLive)
    (hretries : looksForExport e.state ≤ limits.poll.retries)
    (hE : E p') (hE' : E (p'.withExport e.id .active)) :
    DriverLeads p (exportTo limits t) (.ok { Status.success with device := some t.path })
      (p'.withExport e.id .active) E := by
  refine (leads_onController hcreate _).bind ?_
  exact (leads_onController (leads_waitForActive h he hlive hretries hE hE') _).bind (leads_pure _)

/-! ## Detaching -/

/-- What follows in `FileStorage.detach` when the target is known. -/
def undoExport (limits : Limits) (t : ExportTarget) : DriverRun Status := do
  onController .export (deleteExport limits t)
  return .successWith ("Detach " ++ t.fileSystem.id ++ " from " ++ t.mountTarget.id)

/-- What `undoExport` deletes is the export that serves the target. -/
theorem ends_undoExport (hlist : p.cloud.ListableExports limits) (h : p.cloud.exportStates.Drained)
    (hs : p.cloud.serving t = some e) (he : p.cloud.exports.find? (Cloud.isExport e.id) = some e)
    (hretries : 2 ≤ limits.poll.retries) :
    Ends World.act p (undoExport limits t)
      (.ok (.successWith ("Detach " ++ t.fileSystem.id ++ " from " ++ t.mountTarget.id)))
      (p.withExport e.id .deleted) :=
  ((ends_deleteExport h hlist hs he hretries).onController .export).bind (ends_pure _)

/-- Where no export serves the target, `undoExport` finds nothing to undo. -/
theorem leads_undoExport_unserved (h : p.cloud.ListableExports limits) (hs : p.cloud.serving t = none) :
    DriverLeads p (undoExport limits t) (.error (.export (.notFound t.fileSystem.id t.path))) p
      (· = p) := by
  have hfind := leads_findExport (t := t) h
  rw [hs] at hfind
  have hdelete : ControllerLeads p (deleteExport limits t)
      (.error (.notFound t.fileSystem.id t.path)) p (· = p) :=
    hfind.bind (leads_throw _)
  exact (leads_onController hdelete _).bind_error

/-! ## Telling -/

/-- What follows in `isattached` when the target is known. -/
def tellExport (limits : Limits) (t : ExportTarget) : DriverRun Status := do
  let attached ← onController .export (isExported limits t)
  return { Status.success with attached }

/-- What `tellExport` tells of a file system is whether an export serves the target. -/
theorem leads_tellExport (h : p.cloud.ListableExports limits) :
    DriverLeads p (tellExport limits t)
      (.ok { Status.success with attached := (p.cloud.serving t).map Export.state = some .active }) p
      (· = p) := by
  have hfind := leads_findExport (t := t) h
  have htell : ControllerLeads p (isExported limits t)
      (.ok ((p.cloud.serving t).map Export.state = some .active)) p (· = p) := by
    cases hs : p.cloud.serving t with
    | none =>
      rw [hs] at hfind
      exact hfind.bind (leads_pure false)
    | some e =>
      rw [hs] at hfind
      have hanswer : ControllerLeads p (isExported limits t) (.ok (decide (e.state = .active))) p
          (· = p) :=
        hfind.bind (leads_pure _)
      simpa using hanswer
  exact (leads_onController htell _).bind (leads_pure _)

/-! ## Call-outs about a target -/

/-- A call-out that finds out where a file system is exported by `resolveTarget`, and goes on from there. -/
def aboutTarget (limits : Limits) (fileSystemId : String) (rest : ExportTarget → DriverRun Status) :
    DriverRun Status := do
  let session ← openSession
  let target ← FileStorage.target limits session fileSystemId
  rest target

theorem attach_eq_aboutTarget {options : Options} {node : String} :
    FileStorage.attach limits options node =
      volumeOf options >>= fun name => aboutTarget limits name (exportTo limits) :=
  rfl

section AboutTarget

variable {p' : Picture} {session : Session} {name : String} {rest : ExportTarget → DriverRun Status}
  {r : Except DriverFault Status} (hsession : p.session = .ok session)
  (hresolve : ControllerLeads p (resolveTarget limits session.compartmentId name) (.ok t) p (· = p))

include hsession hresolve

/-- What `aboutTarget` leads to is what it goes on to from the target. -/
theorem leads_aboutTarget {E : Picture → Prop} (hE : E p) (hrest : DriverLeads p (rest t) r p' E) :
    DriverLeads p (aboutTarget limits name rest) r p' E := by
  refine (leads_openSession hsession).bind ?_
  refine (leads_onController (hresolve.mono ?_) .export).bind hrest
  rintro q rfl
  exact hE

/-- Undisturbed, `aboutTarget` comes to what it comes to from the target. -/
theorem ends_aboutTarget (hrest : Ends World.act p (rest t) r p') :
    Ends World.act p (aboutTarget limits name rest) r p' := by
  refine (leads_openSession (E := (· = p)) hsession).ends.bind ?_
  exact (leads_onController hresolve .export).ends.bind hrest

end AboutTarget

end VolumeDriver.InMemory
