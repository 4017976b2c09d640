import VolumeDriver.Proofs.BlockVolume.Leads
import VolumeDriver.Proofs.FileStorage.Leads
import VolumeDriver.Proofs.InMemory.Paging
set_option autoImplicit false

/-! # Searching a listing page by page

An attachment, an export and a mount target are searched for in listings with `findOnPages`, and the search
is over where the first match is. What it comes to is up to the whole listing, and what it asks for are the
pages up to that match, or all pages if there is none (`pagesUntil`). -/

namespace VolumeDriver.InMemory

open ControlPlane Controller

/-! ## Worlds in which nothing happens but exchanges -/

/-- Listings can be read to their ends: nothing is made to fail, pages have items on them, the place of
    every item can be told in a page token, and there are no more pages than are read. -/
structure Readable (c : Cloud) (limits : Limits) : Prop where
  calm : c.failures.Drained
  size : c.pageSize ≠ some 0
  long : ∀ l : Listing, (l.items c).length < UInt64.size
  pages : ∀ l : Listing, pageCount c.pageSize (l.items c).length ≤ limits.pages

/-- The world has the control plane `c`, and maybe more exchanges on record. -/
def World.Holds (w : World) (c : Cloud) : Prop :=
  ∃ operations, w.cloud = c.asked operations

/-- The world with more exchanges on record. -/
def World.asked (w : World) (operations : List String) : World :=
  { w with cloud := w.cloud.asked operations }

namespace World

variable {w : World} {c : Cloud}

theorem holds_self (w : World) : w.Holds w.cloud :=
  ⟨[], w.cloud.asked_nil.symm⟩

theorem Holds.asked (h : w.Holds c) (operations : List String) : (w.asked operations).Holds c := by
  obtain ⟨before, hcloud⟩ := h
  refine ⟨before ++ operations, ?_⟩
  rw [← Cloud.asked_asked, ← hcloud]
  rfl

theorem asked_asked (w : World) (operations more : List String) :
    (w.asked operations).asked more = w.asked (operations ++ more) :=
  congrArg (fun cloud => { w with cloud }) (w.cloud.asked_asked operations more)

end World

section Search

variable {c : Cloud} {limits : Limits} {w : World} {ε : Type}

theorem runs_request (hcalm : c.failures.Drained) {e : Exchange} {answer : Except Fault e.Answer}
    (h : c.respond e = (answer, c)) (hw : w.Holds c) :
    Fallible.runs World.controlAnswer (request e) w = (answer, w.asked [e.operation]) := by
  obtain ⟨operations, hcloud⟩ := hw
  have hexchange : w.cloud.exchange e = (answer, w.cloud.asked [e.operation]) := by
    rw [hcloud, Cloud.exchange_asked hcalm h, Cloud.asked_asked]
  have hrun : Fallible.runs World.controlAnswer (request e) w =
      ((w.cloud.exchange e).1, { w with cloud := (w.cloud.exchange e).2 }) := rfl
  rw [hrun, hexchange]
  rfl

theorem runs_requested (hcalm : c.failures.Drained) {e : Exchange} {answer : e.Answer}
    (h : c.respond e = (.ok answer, c)) (hw : w.Holds c) (wrap : Fault → ε) :
    Fallible.runs World.controlAnswer (Fallible.wrap wrap (request e)) w =
      (.ok answer, w.asked [e.operation]) := by
  rw [Fallible.runs_wrap, runs_request hcalm h hw]
  rfl

variable {α : Type} {items : List α} {operation : String} {endless : Run ε (Option α)}
  {list : Option String → Run ε (Page α)} {p : α → Bool}

theorem runs_findOnPages_from
    (hlist : ∀ w page, w.Holds c → Fallible.runs World.controlAnswer (list page) w =
      (.ok (c.paginate items page), w.asked [operation]))
    (hsize : c.pageSize ≠ some 0) (hlong : items.length < UInt64.size) {pages : Nat}
    (page : Option String)
    (hpages : pageCount c.pageSize (items.length - Cloud.offset page) ≤ pages) (hw : w.Holds c) :
    Fallible.runs World.controlAnswer (findOnPages endless list p pages page) w =
      (.ok ((items.drop (Cloud.offset page)).find? p),
        w.asked (List.replicate (pagesUntil c.pageSize p (items.drop (Cloud.offset page)))
          operation)) := by
  -- Of the pages that may be read there are as many as are left; a match ends the search before.
  induction pages generalizing page w with
  | zero => exact absurd hpages (Nat.not_le_of_gt (pageCount_pos hsize))
  | succ pages ih =>
    rw [findOnPages, Fallible.runs_bind_ok (hlist w page hw)]
    rcases Cloud.paginate_cases hsize hlong page with
      ⟨hlast, hfits⟩ | ⟨size, token, hsome, hpos, htoken, hmore, hpage⟩
    · have hone : pagesUntil c.pageSize p (items.drop (Cloud.offset page)) = 1 := by
        refine pagesUntil_fits hsize fun size hsome => ?_
        have := hfits size hsome
        rw [List.length_drop]
        omega
      rw [hlast, hone]
      cases (items.drop (Cloud.offset page)).find? p with
      | some found => rfl
      | none => rfl
    · have hrest : items.drop (Cloud.offset page) = _ := Cloud.drop_page htoken
      rw [hpage, hrest, List.find?_append, ← hrest]
      cases hfound : ((items.drop (Cloud.offset page)).take size).find? p with
      | some found =>
        rw [Cloud.pagesUntil_found hsome htoken hmore (by rw [hfound]; rfl)]
        rfl
      | none =>
        have hfew : pageCount c.pageSize (items.length - Cloud.offset (some token)) ≤ pages := by
          rw [Cloud.pageCount_page hsome hpos htoken hmore] at hpages
          exact Nat.le_of_succ_le_succ hpages
        rw [Cloud.pagesUntil_missed hsome hpos htoken hmore hfound]
        dsimp only [Option.none_or]
        rw [ih (some token) hfew (hw.asked _), World.asked_asked]
        rfl

/-- **A `findOnPages` comes to the first match of the whole listing**, and asks for no page after its
    own. -/
theorem runs_findOnPages
    (hlist : ∀ w page, w.Holds c → Fallible.runs World.controlAnswer (list page) w =
      (.ok (c.paginate items page), w.asked [operation]))
    (hsize : c.pageSize ≠ some 0) (hlong : items.length < UInt64.size) {pages : Nat}
    (hpages : pageCount c.pageSize items.length ≤ pages) (hw : w.Holds c) :
    Fallible.runs World.controlAnswer (findOnPages endless list p pages none) w =
      (.ok (items.find? p),
        w.asked (List.replicate (pagesUntil c.pageSize p items) operation)) :=
  runs_findOnPages_from hlist hsize hlong none hpages hw

/-! ## The three searches -/

theorem runs_findAttachment (h : Readable c limits) (hw : w.Holds c) (compartmentId volumeId : String) :
    let items := c.attachments.filter fun a => a.volumeId = volumeId
    Fallible.runs World.controlAnswer (findAttachment limits compartmentId volumeId) w =
      (found volumeId (items.find? (·.state.isLive)),
        w.asked (List.replicate (pagesUntil c.pageSize (·.state.isLive) items)
          "ListVolumeAttachments")) := by
  intro items
  have hlist : ∀ w page, w.Holds c → Fallible.runs World.controlAnswer
      (requestAttachment (.listVolumeAttachments compartmentId volumeId page)) w =
        (.ok (c.paginate items page), w.asked ["ListVolumeAttachments"]) :=
    fun _ _ hw => runs_requested h.calm rfl hw _
  have hlong := h.long (.attachments compartmentId volumeId)
  have hpages := h.pages (.attachments compartmentId volumeId)
  unfold findAttachment
  rw [Fallible.runs_bind_ok (runs_findOnPages hlist h.size hlong hpages hw)]
  cases items.find? (·.state.isLive) with
  | some a => rfl
  | none => rfl

/-- What a search for a mount target comes to. -/
def foundTarget (domain : String) : Option MountTarget → Except ExportFault MountTarget
  | some t => .ok t
  | none => .error (.noMountTarget domain)

theorem runs_activeMountTarget (h : Readable c limits) (hw : w.Holds c)
    (compartmentId domain : String) :
    let items := c.mountTargets.filter fun t => t.availabilityDomain = domain
    Fallible.runs World.controlAnswer (activeMountTarget limits compartmentId domain) w =
      (foundTarget domain (items.find? (·.state = .active)),
        w.asked (List.replicate (pagesUntil c.pageSize (·.state = .active) items)
          "ListMountTargets")) := by
  intro items
  have hlist : ∀ w page, w.Holds c → Fallible.runs World.controlAnswer
      (requestExport (.listMountTargets compartmentId domain page)) w =
        (.ok (c.paginate items page), w.asked ["ListMountTargets"]) :=
    fun _ _ hw => runs_requested h.calm rfl hw _
  have hlong := h.long (.mountTargets compartmentId domain)
  have hpages := h.pages (.mountTargets compartmentId domain)
  unfold activeMountTarget
  rw [Fallible.runs_bind_ok (runs_findOnPages hlist h.size hlong hpages hw)]
  cases items.find? (·.state = .active) with
  | some t => rfl
  | none => rfl

theorem runs_findExport (h : Readable c limits) (hw : w.Holds c) (t : ExportTarget) :
    let isSought : Export → Bool := fun e => e.path = t.path && e.state.isLive
    Fallible.runs World.controlAnswer (findExport limits t) w =
      (.ok ((c.exportsFor t).find? isSought),
        w.asked (List.replicate (pagesUntil c.pageSize isSought (c.exportsFor t)) "ListExports")) := by
  intro isSought
  have hlist : ∀ w page, w.Holds c → Fallible.runs World.controlAnswer
      (requestExport (.listExports t.mountTarget.exportSetId t.fileSystem.id page)) w =
        (.ok (c.paginate (c.exportsFor t) page), w.asked ["ListExports"]) :=
    fun _ _ hw => runs_requested h.calm rfl hw _
  have hlong := h.long (.exports t.mountTarget.exportSetId t.fileSystem.id)
  have hpages := h.pages (.exports t.mountTarget.exportSetId t.fileSystem.id)
  exact runs_findOnPages hlist h.size hlong hpages hw

end Search

end VolumeDriver.InMemory
