import VolumeDriver.Proofs.Driver.Trace
import VolumeDriver.Proofs.FileStorage.CallOuts
import VolumeDriver.Proofs.Flow.Shared
set_option autoImplicit false

/-! # Attaches of one file system at once

Where no export is live at the path of a target, and all that happens is that the file system of that target
is attached, by whomever, the control plane goes through three stages (`ExportStage`): the target is not
served, then an export has been created there, and then that export is in place. An attach copes with others
that do the same (`Flow.Copes`). If its search finds nothing and somebody else is faster to create an
export, the search that follows the refusal finds that one: the stages go one way only. -/

namespace VolumeDriver.InMemory

open ControlPlane Controller

/-- How far it has come with the export of a target. -/
inductive ExportStage
  | unserved
  | creating
  | active
  deriving DecidableEq, Repr

namespace ExportStage

/-- The number of steps that it took to get to a stage. -/
def steps : ExportStage → Nat
  | unserved => 0
  | creating => 1
  | active => 2

/-- The exports that have been created by a stage. -/
def created (p : Picture) (t : ExportTarget) : ExportStage → List Export
  | unserved => []
  | creating => [p.cloud.newExport t]
  | active => [{ p.cloud.newExport t with state := .active }]

/-- What the picture has become by a stage. -/
def picture (p : Picture) (t : ExportTarget) : ExportStage → Picture
  | unserved => p
  | creating => { p with cloud := p.cloud.withNewExport t }
  | active => { p with cloud := p.cloud.withNewExport t }.withExport (p.cloud.newExport t).id .active

theorem eq_active {i : ExportStage} (h : active.steps ≤ i.steps) : i = active := by
  cases i <;> first | rfl | exact absurd h (by decide)

theorem ne_unserved {i j : ExportStage} (hi : i ≠ unserved) (h : i.steps ≤ j.steps) :
    j ≠ unserved := by
  rintro rfl
  cases i with
  | unserved => exact hi rfl
  | _ => exact absurd h (by decide)

variable {p : Picture} {t : ExportTarget}

theorem exports_picture (h : p.cloud.SoundExports) (i : ExportStage) :
    (i.picture p t).cloud.exports = p.cloud.exports ++ i.created p t := by
  cases i with
  | unserved => exact (List.append_nil _).symm
  | creating => rfl
  | active => exact h.exports_newExport t .active

/-- No stage touches the scene. -/
theorem scene_picture (i : ExportStage) : (i.picture p t).scene = p.scene := by
  cases i <;> rfl

theorem isLive_created {i : ExportStage} {e : Export} (h : e ∈ i.created p t) : isLiveTo t e := by
  cases i with
  | unserved => cases h
  | _ =>
    obtain rfl := List.mem_singleton.1 h
    simp [isLiveTo, Cloud.newExport, ExportState.isLive]

/-- The path is taken (`Cloud.isTaken`) as soon as there is an export. -/
theorem isTaken_picture (h : p.cloud.SoundExports) {i : ExportStage} (hi : i ≠ unserved) :
    (i.picture p t).cloud.isTaken t := by
  rw [Cloud.isTaken, exports_picture h, List.any_append]
  cases i with
  | unserved => exact absurd rfl hi
  | _ => simp [created, Cloud.newExport, ExportState.isLive]

end ExportStage

/-! ## What events may do -/

/-- Whether the event is a request for an export that was answered with one. -/
def isCreation : Event driverSignature → Bool
  | ⟨.inl (.exchange (.createExport ..)), answer⟩ => Except.isOk (α := Export) answer
  | _ => false

/-- The event looks at no export but `e`, in whatever state. -/
def LooksAt (e : Export) : Event driverSignature → Prop
  | ⟨.inl (.exchange (.getExport id)), answer⟩ =>
    id = e.id ∧ ∃ state, answer = .ok { e with state }
  | _ => True

/-- What may happen when an event moves the stage from `i` to `j`: it goes on, it leaves the first one by
    the creation of an export and only by that, and no other export is looked at. -/
structure ExportStage.Moves (new : Export) (e : Event driverSignature) (i j : ExportStage) : Prop where
  later : i.steps ≤ j.steps
  creates : isCreation e ↔ i = .unserved ∧ j ≠ .unserved
  looks : LooksAt new e

/-- The `Course` of stages that a world goes through. -/
def exportCourse (p : Picture) (t : ExportTarget) : Course driverSignature World ExportStage where
  answer := World.act
  At i w := w.Calm ∧ w.picture = i.picture p t
  Later i j := i.steps ≤ j.steps
  Moves := ExportStage.Moves (p.cloud.newExport t)
  refl _ := Nat.le_refl _
  trans := Nat.le_trans

section Stages

variable {p : Picture} {t : ExportTarget} {limits : Limits} {i : ExportStage}

/-- An event that is no `isCreation`, and `LooksAt` none but the right export, may leave the stage as it
    is. -/
theorem ExportStage.Moves.stay {new : Export} {e : Event driverSignature}
    (hcreation : isCreation e = false) (hlooks : LooksAt new e) : ExportStage.Moves new e i i :=
  ⟨Nat.le_refl _, by simp [hcreation], hlooks⟩

/-- Apart from the control plane all of `ExportStage.picture` are the same. -/
theorem ExportStage.picture_of_cloud {j k : ExportStage} :
    { j.picture p t with cloud := (k.picture p t).cloud } = k.picture p t := by
  cases j <;> cases k <;> rfl

/-- What is requested is answered by the control plane of the stage, which may be that of a later one
    then. -/
theorem copes_request {x : Exchange} {Q : Except Fault x.Answer → ExportStage → Prop}
    (h : ∀ j : ExportStage, i.steps ≤ j.steps → ∃ answer, ∃ k : ExportStage,
      (j.picture p t).cloud.respond x = (answer, (k.picture p t).cloud) ∧
      ExportStage.Moves (p.cloud.newExport t) (exchanged x answer).controlled j k ∧
      ∀ l : ExportStage, k.steps ≤ l.steps → Q answer l) :
    Flow.Copes (exportCourse p t).left (request x).run i Q := by
  rintro j w hj ⟨hcalm, hpicture⟩
  obtain ⟨answer, k, hrespond, hmoves, hQ⟩ := h j hj
  obtain ⟨hanswer, hcalm', hpicture'⟩ :=
    (leads_request (p := j.picture p t) (E := fun _ => True) x trivial).ends w hcalm hpicture
  rw [hrespond] at hanswer
  rw [Picture.after, hrespond] at hpicture'
  have hsame : ((exportCourse p t).left.answer (.exchange x) w).1 = answer := hanswer
  refine ⟨k, ?_, ⟨hcalm', hpicture'.trans ExportStage.picture_of_cloud⟩, ?_⟩
  · rw [hsame]
    exact hmoves
  · rw [hsame]
    exact hQ

theorem copes_pause (milliseconds : Nat) {Q : Unit → ExportStage → Prop}
    (h : ∀ j : ExportStage, i.steps ≤ j.steps → Q () j) :
    Fallible.Copes (ε := ExportFault) (exportCourse p t).left (liftM (pause milliseconds)) i Q :=
  fun j _ hj hw => ⟨j, .stay rfl trivial, hw, fun k hk => ⟨(), rfl, h k (Nat.le_trans hj hk)⟩⟩

/-! ## Finding out where -/

/-- What an action that `LooksUp` is answered with is the same at all stages. -/
theorem same_of_looksUp {action : Controller.signature.Action} (h : LooksUp action) :
    ∃ answer, ∀ j w, (exportCourse p t).left.At j w →
      ((exportCourse p t).left.answer action w).1 = answer ∧
        (exportCourse p t).left.At j ((exportCourse p t).left.answer action w).2 ∧
        (exportCourse p t).left.Moves ⟨action, answer⟩ j j := by
  cases action with
  | connect =>
    refine ⟨p.session, ?_⟩
    rintro j w ⟨hcalm, hpicture⟩
    refine ⟨?_, ⟨hcalm, hpicture⟩, .stay rfl trivial⟩
    have hscene : w.picture.scene = p.scene := by rw [hpicture, ExportStage.scene_picture]
    exact congrArg Picture.session hscene
  | exchange x =>
    refine ⟨(p.cloud.fixed.respond x).1, ?_⟩
    rintro j w ⟨hcalm, hpicture⟩
    have hfixed : (j.picture p t).cloud.fixed = p.cloud.fixed :=
      congrArg Picture.cloud (ExportStage.scene_picture j)
    have hrespond : (j.picture p t).cloud.respond x =
        ((p.cloud.fixed.respond x).1, (j.picture p t).cloud) := by
      rw [Cloud.respond_fixed h, hfixed]
    obtain ⟨hanswer, hcalm', hpicture'⟩ :=
      (leads_request (p := j.picture p t) (E := fun _ => True) x trivial).ends w hcalm hpicture
    rw [hrespond] at hanswer
    rw [Picture.after, hrespond] at hpicture'
    refine ⟨hanswer, ⟨hcalm', hpicture'⟩, ?_⟩
    cases x <;> first | exact .stay rfl trivial | cases h
  | _ => cases h

/-- A flow of which every action `LooksUp` copes, and comes to what it leads to. -/
theorem copes_looksUp {ε α : Type} {m : Run ε α} {a : α} (hm : Fallible.Only LooksUp m) {w : World}
    (hw : w.Calm) (hp : w.picture = p) (hleads : Ends World.controlAnswer p m (.ok a) p) :
    Fallible.Copes (exportCourse p t).left m i fun b _ => b = a := by
  have hrun := (hleads w hw hp).1
  have hstart : (exportCourse p t).left.At .unserved w := ⟨hw, hp⟩
  refine (Flow.Only.copes hm (fun _ => same_of_looksUp) hstart i).imp ?_
  rintro _ _ rfl
  exact ⟨a, hrun, rfl⟩

end Stages

/-! ## Searching -/

/-- Where the path of a target is free and all else is as it should be for exports to be created, listed and
    looked at. -/
structure Picture.Free (p : Picture) (t : ExportTarget) : Prop where
  free : ¬p.cloud.isTaken t
  sound : p.cloud.SoundExports
  size : p.cloud.pageSize ≠ some 0
  long : p.cloud.exports.length + 1 < UInt64.size

section Free

variable {p : Picture} {t : ExportTarget} {limits : Limits} {i : ExportStage} (h : p.Free t)

include h

/-- What has been created comes last in `Cloud.exportsFor`. -/
theorem ExportStage.exportsFor_picture (i : ExportStage) :
    (i.picture p t).cloud.exportsFor t = p.cloud.exportsFor t ++ i.created p t := by
  rw [Cloud.exportsFor, exports_picture h.sound, List.filter_append]
  congr 1
  rw [List.filter_eq_self]
  intro e he
  have hlive := isLive_created he
  simp only [isLiveTo, Bool.and_eq_true] at hlive ⊢
  exact hlive.1

/-- What was in `Cloud.exportsFor` before does not count. -/
theorem none_of_exportsFor {l : List Export} (hl : ∀ e ∈ l, e ∈ p.cloud.exportsFor t) :
    (l.find? fun e => e.path = t.path && e.state.isLive) = none := by
  have hnone := Cloud.find?_exportsFor p.cloud t
  rw [Cloud.serving_of_not_taken h.free, List.find?_eq_none] at hnone
  rw [List.find?_eq_none]
  exact fun e he => hnone e (hl e he)

/-- From a place in `Cloud.exportsFor` on, what has been created is found. -/
theorem find?_exportsFor_drop (i : ExportStage) {n : Nat} (hn : n ≤ (p.cloud.exportsFor t).length) :
    (((p.cloud.exportsFor t ++ i.created p t).drop n).find? fun e => e.path = t.path && e.state.isLive) =
      (i.created p t).head? := by
  rw [List.drop_append_of_le_length hn, List.find?_append,
    none_of_exportsFor h fun e he => List.mem_of_mem_drop he, Option.none_or]
  cases hcreated : i.created p t with
  | nil => rfl
  | cons e rest =>
    have hlive : isLiveTo t e := ExportStage.isLive_created (hcreated ▸ List.mem_cons_self)
    simp only [isLiveTo, Bool.and_eq_true] at hlive
    simp [hlive.2.1, hlive.2.2]

theorem copes_listExports (page : Option String) :
    Fallible.Copes (exportCourse p t).left
      (requestExport (.listExports t.mountTarget.exportSetId t.fileSystem.id page)) i
      fun listing j => ∃ k : ExportStage, i.steps ≤ k.steps ∧ k.steps ≤ j.steps ∧
        listing = p.cloud.paginate (p.cloud.exportsFor t ++ k.created p t) page := by
  refine Fallible.Copes.wrap (copes_request (x := .listExports _ _ page)
    fun j hj => ⟨_, j, rfl, .stay rfl trivial, ?_⟩) _
  intro l hl
  have hpaginate : (j.picture p t).cloud.paginate ((j.picture p t).cloud.exportsFor t) page =
      p.cloud.paginate (p.cloud.exportsFor t ++ j.created p t) page := by
    rw [ExportStage.exportsFor_picture h]
    cases j <;> rfl
  exact ⟨_, rfl, j, hj, hl, hpaginate⟩

theorem copes_findExport_from {pages : Nat} (page : Option String)
    (hoffset : Cloud.offset page ≤ (p.cloud.exportsFor t).length)
    (hpages : (p.cloud.exportsFor t).length - Cloud.offset page < pages) :
    Fallible.Copes (exportCourse p t).left
      (findOnPages (throw (.controlPlane (.endless "ListExports" limits.pages)))
        (fun page => requestExport (.listExports t.mountTarget.exportSetId t.fileSystem.id page))
        (fun e => e.path = t.path && e.state.isLive) pages page) i
      fun found j => ∃ k : ExportStage, i.steps ≤ k.steps ∧ k.steps ≤ j.steps ∧
        found = (k.created p t).head? := by
  have hshort := p.cloud.length_exportsFor_le t
  have hlong := h.long
  induction pages generalizing page i with
  | zero => exact absurd hpages (Nat.not_lt_zero _)
  | succ pages ih =>
    refine Fallible.Copes.bind ((copes_listExports h page).imp ?_)
    rintro _ j ⟨k, hik, hkj, rfl⟩
    have hfind := find?_exportsFor_drop h k hoffset
    have hlength : (p.cloud.exportsFor t ++ k.created p t).length ≤
        (p.cloud.exportsFor t).length + 1 := by
      cases k <;> simp [ExportStage.created]
    rcases Cloud.paginate_cases h.size (Nat.lt_of_le_of_lt hlength (by omega)) page with
      ⟨hlast, -⟩ | ⟨size, token, -, hpos, htoken, hmore, hpage⟩
    · rw [hlast]
      dsimp only
      rw [hfind]
      cases hcreated : (k.created p t).head? <;>
        exact Fallible.copes_pure fun l hl => ⟨k, hik, Nat.le_trans hkj hl, hcreated.symm⟩
    · -- On a page that is not the last one there is only what was there before.
      have hbefore : (((p.cloud.exportsFor t ++ k.created p t).drop (Cloud.offset page)).take size).find?
          (fun e => e.path = t.path && e.state.isLive) = none := by
        rw [List.drop_append_of_le_length hoffset,
          List.take_append_of_le_length (by rw [List.length_drop]; omega)]
        exact none_of_exportsFor h fun e he => List.mem_of_mem_drop (List.mem_of_mem_take he)
      rw [hpage]
      dsimp only
      rw [hbefore]
      refine (ih (some token) (by omega) (by omega)).imp ?_
      rintro found l ⟨k', hjk', hk'l, hfound⟩
      exact ⟨k', Nat.le_trans hik (Nat.le_trans hkj hjk'), hk'l, hfound⟩

variable (hpages : p.cloud.exports.length < limits.pages)

include hpages

/-- **A `findExport` finds what has been created** by some stage that comes while it goes on. -/
theorem copes_findExport :
    Fallible.Copes (exportCourse p t).left (findExport limits t) i
      fun found j => ∃ k : ExportStage, i.steps ≤ k.steps ∧ k.steps ≤ j.steps ∧
        found = (k.created p t).head? := by
  have hshort := p.cloud.length_exportsFor_le t
  exact copes_findExport_from h none (Nat.zero_le _) (Nat.lt_of_le_of_lt hshort hpages)

/-- A `findExport` that begins when there is an export finds it. -/
theorem copes_findExport_created (hi : i ≠ .unserved) :
    Fallible.Copes (exportCourse p t).left (findExport limits t) i
      fun found j => ∃ e, found = some e ∧ e.id = (p.cloud.newExport t).id ∧ j ≠ .unserved := by
  refine (copes_findExport h hpages).imp ?_
  rintro _ j ⟨k, hik, hkj, rfl⟩
  have hk := ExportStage.ne_unserved hi hik
  cases k with
  | unserved => exact absurd rfl hk
  | _ => exact ⟨_, rfl, rfl, ExportStage.ne_unserved hk hkj⟩

/-! ## Creating -/

/-- In `exportAnew`, a request for an export creates one, unless there is one already: then it is
    refused. -/
theorem copes_exportAnew :
    Fallible.Copes (exportCourse p t).left (exportAnew limits t) i
      fun e j => e.id = (p.cloud.newExport t).id ∧ j ≠ .unserved := by
  refine Fallible.Copes.bind_outcome (copes_request fun j hj => ?_)
  by_cases hunserved : j = .unserved
  · subst hunserved
    refine ⟨_, .creating, Cloud.respond_createExport_free h.free, ⟨Nat.zero_le _, ?_, trivial⟩, ?_⟩
    · exact iff_of_true rfl ⟨rfl, by decide⟩
    · exact fun l hl => Fallible.copes_pure fun l' hl' =>
        ⟨rfl, ExportStage.ne_unserved (by decide) (Nat.le_trans hl hl')⟩
  · have htaken : (j.picture p t).cloud.isTaken t := ExportStage.isTaken_picture h.sound hunserved
    refine ⟨_, j, Cloud.respond_createExport_taken htaken, .stay rfl trivial, fun l hl => ?_⟩
    have hfind := copes_findExport_created h hpages (ExportStage.ne_unserved hunserved hl)
    refine Fallible.Copes.bind (hfind.imp ?_)
    rintro _ l' ⟨e, rfl, hid, hl'⟩
    exact Fallible.copes_pure fun l'' hl'' => ⟨hid, ExportStage.ne_unserved hl' hl''⟩

theorem copes_createExport :
    Fallible.Copes (exportCourse p t).left (createExport limits t) i
      fun e j => e.id = (p.cloud.newExport t).id ∧ j ≠ .unserved := by
  rw [createExport_eq]
  refine Fallible.Copes.bind ((copes_findExport h hpages).imp ?_)
  rintro _ j ⟨k, hik, hkj, rfl⟩
  cases k with
  | unserved => exact copes_exportAnew h hpages
  | creating | active =>
    exact Fallible.copes_pure fun l hl =>
      ⟨rfl, ExportStage.ne_unserved (by decide) (Nat.le_trans hkj hl)⟩

end Free

/-! ## Waiting -/

section Waiting

variable {p : Picture} {t : ExportTarget} {limits : Limits} {i : ExportStage}
  (h : p.cloud.SoundExports)

include h

/-- What has been created is found by its identifier. -/
theorem ExportStage.find?_created (i : ExportStage) :
    (i.picture p t).cloud.exports.find? (Cloud.isExport (p.cloud.newExport t).id) =
      (i.created p t).head? := by
  rw [exports_picture h, List.find?_append, h.find?_newId t, Option.none_or]
  cases i with
  | unserved => rfl
  | _ => simp [created, Cloud.isExport]

/-- An export that has been created is in place after `getExport` has looked at it, and it is seen there if
    it was in place before. -/
theorem copes_getExport (hi : i ≠ .unserved) :
    Fallible.Copes (exportCourse p t).left (requestExport (.getExport (p.cloud.newExport t).id)) i
      fun e j => j = .active ∧ (Export.state e = .active ∨ Export.state e = .creating ∧ i ≠ .active) := by
  refine Fallible.Copes.wrap (copes_request (x := .getExport _) fun j hj => ?_) _
  have hdrained : (j.picture p t).cloud.exportStates.Drained := by
    cases j <;> exact h.unscripted
  have hfound := ExportStage.find?_created h (t := t) j
  cases j with
  | unserved => exact absurd rfl (ExportStage.ne_unserved hi hj)
  | creating =>
    have hcreates : false = true ↔
        ExportStage.creating = .unserved ∧ ExportStage.active ≠ .unserved := by
      decide
    refine ⟨_, .active, Cloud.respond_getExport hdrained hfound,
      ⟨Nat.le_succ _, hcreates, rfl, .creating, rfl⟩, fun l hl => ?_⟩
    refine ⟨_, rfl, ExportStage.eq_active hl, .inr ⟨rfl, ?_⟩⟩
    rintro rfl
    exact absurd hj (by decide)
  | active =>
    have hsame : (ExportStage.active.picture p t).cloud.setExportState (p.cloud.newExport t).id
        .active = (ExportStage.active.picture p t).cloud :=
      Cloud.setExportState_of_eq hfound rfl
    have hrespond := Cloud.respond_getExport hdrained hfound
    exact ⟨_, .active, hrespond.trans (congrArg _ hsame), .stay rfl ⟨rfl, .active, rfl⟩,
      fun l hl => ⟨_, rfl, ExportStage.eq_active hl, .inl rfl⟩⟩

theorem copes_lookForActive (hi : i ≠ .unserved) :
    Fallible.Copes (exportCourse p t).left (lookForActive (p.cloud.newExport t).id) i
      fun found j => j = .active ∧ (i = .active → found.isSome) := by
  refine Fallible.Copes.bind ((copes_getExport h hi).imp ?_)
  rintro e j ⟨rfl, hstate | ⟨hstate, hnot⟩⟩
  · rw [hstate]
    exact Fallible.copes_pure fun l hl => ⟨ExportStage.eq_active hl, fun _ => rfl⟩
  · rw [hstate]
    exact Fallible.copes_pure fun l hl => ⟨ExportStage.eq_active hl, fun hactive => absurd hactive hnot⟩

/-- **A `waitForActive` for an export that has been created ends** with the second look, if not with the
    first one. -/
theorem copes_waitForActive (hretries : 2 ≤ limits.poll.retries) (hi : i ≠ .unserved) :
    Fallible.Copes (exportCourse p t).left (waitForActive limits (p.cloud.newExport t).id) i
      fun _ j => j = .active := by
  rw [waitForActive_eq]
  obtain ⟨n, hn⟩ : ∃ n, limits.poll.retries = n + 1 + 1 := ⟨_, (Nat.sub_add_cancel hretries).symm⟩
  rw [hn]
  refine Fallible.Copes.bind ((copes_lookForActive h hi).imp ?_)
  rintro found j ⟨rfl, _⟩
  cases found with
  | some e => exact Fallible.copes_pure fun l hl => ExportStage.eq_active hl
  | none =>
    refine Fallible.Copes.bind (copes_pause _ fun j hj => ?_)
    refine Fallible.Copes.bind ((copes_lookForActive h (i := j) ?_).imp ?_)
    · exact ExportStage.ne_unserved (by decide) hj
    · rintro found l ⟨rfl, hseen⟩
      cases found with
      | some e => exact Fallible.copes_pure fun l hl => ExportStage.eq_active hl
      | none => exact absurd (hseen (ExportStage.eq_active hj)) (by decide)

end Waiting

/-! ## Attaching -/

/-- Where a file system is to be exported, and its target is free. -/
structure Exportless (w : World) (session : Session) (name : String) (t : ExportTarget) : Prop where
  opens : w.session = .ok session
  calm : w.Calm
  located : w.cloud.Locates name t
  free : ¬w.cloud.isTaken t
  sound : w.cloud.SoundExports
  size : w.cloud.pageSize ≠ some 0
  long : w.cloud.exports.length + 1 < UInt64.size
  targetsLong : w.cloud.mountTargets.length < UInt64.size

/-- The `limits` let a control plane's listings be read to their ends, and an export be looked at twice. -/
structure Cloud.Suffice (c : Cloud) (limits : Limits) : Prop where
  pages : c.exports.length < limits.pages
  targetPages : c.mountTargets.length < limits.pages
  retries : 2 ≤ limits.poll.retries

section Attach

variable {w : World} {session : Session} {name : String} {t : ExportTarget} {limits : Limits}
  {options : Options}

theorem Exportless.picture (h : Exportless w session name t) : w.picture.Free t where
  free := h.free
  sound := h.sound.unrecorded
  size := h.size
  long := h.long

theorem copes_onController {ε α : Type} {m : Run ε α} {i : ExportStage} {p : Picture}
    {Q : α → ExportStage → Prop} (hm : Fallible.Copes (exportCourse p t).left m i Q)
    (wrap : ε → DriverFault) : Fallible.Copes (exportCourse p t) (onController wrap m) i Q :=
  hm.ofFlow_inLeft.wrap wrap

theorem copes_exportTo {p : Picture} (h : p.Free t) (hpages : p.cloud.exports.length < limits.pages)
    (hretries : 2 ≤ limits.poll.retries) {i : ExportStage} :
    Fallible.Copes (exportCourse p t) (exportTo limits t) i
      fun status j => status = { Status.success with device := some t.path } ∧ j = .active := by
  refine Fallible.Copes.bind ((copes_onController (copes_createExport h hpages) _).imp ?_)
  rintro requested j ⟨hid, hj⟩
  rw [hid]
  have hwait := copes_waitForActive (t := t) h.sound hretries hj
  refine Fallible.Copes.bind ((copes_onController hwait _).imp ?_)
  rintro _ k rfl
  exact Fallible.copes_pure fun l hl => ⟨rfl, ExportStage.eq_active hl⟩

/-- **A `FileStorage.attach` copes with others of the same file system.** -/
theorem copes_attach (h : Exportless w session name t) (hlimits : w.cloud.Suffice limits)
    (hname : options.volumeName? = some name) (node : String) :
    Flow.Copes (exportCourse w.picture t) (FileStorage.attach limits options node).answer .unserved
      fun status j => status = { Status.success with device := some t.path } ∧ j = .active := by
  have hopen : ∀ i, Fallible.Copes (exportCourse w.picture t) openSession i
      fun opened _ => opened = session := by
    intro i
    have hconnect : Fallible.Only LooksUp Controller.connect :=
      Flow.only_perform (S := Controller.signature) trivial
    have hleads := (leads_connect (p := w.picture) (E := fun _ => True)).ends
    rw [show w.picture.session = .ok session from h.opens] at hleads
    exact copes_onController (copes_looksUp hconnect h.calm rfl hleads) _
  have htarget : ∀ i, Fallible.Copes (exportCourse w.picture t)
      (FileStorage.target limits session name) i fun found _ => found = t := by
    intro i
    have hleads : ControllerLeads w.picture (resolveTarget limits session.compartmentId name)
        (.ok t) w.picture (· = w.picture) :=
      resolves_of_locates session.compartmentId h.located.unrecorded h.size h.targetsLong
        hlimits.targetPages rfl
    exact copes_onController (copes_looksUp (only_resolveTarget _ _ _) h.calm rfl hleads.ends) _
  have hattach : Fallible.Copes (exportCourse w.picture t) (FileStorage.attach limits options node)
      .unserved fun status j => status = { Status.success with device := some t.path } ∧ j = .active := by
    rw [attach_eq_aboutTarget, volumeOf, hname]
    refine Fallible.Copes.bind (Fallible.copes_pure fun i _ => ?_)
    refine Fallible.Copes.bind ((hopen i).imp ?_)
    rintro _ j rfl
    refine Fallible.Copes.bind ((htarget j).imp ?_)
    rintro _ k rfl
    exact copes_exportTo h.picture hlimits.pages hlimits.retries
  refine Flow.Copes.bind (m := (FileStorage.attach limits options node).run) (hattach.stays.imp ?_)
  intro result j hresult k hk
  obtain ⟨status, rfl, hstatus⟩ := hresult k hk
  exact hstatus

end Attach

end VolumeDriver.InMemory
