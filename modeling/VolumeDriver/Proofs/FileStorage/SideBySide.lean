import VolumeDriver.Proofs.Concurrency
import VolumeDriver.Proofs.FileStorage.Exported
import VolumeDriver.Proofs.FileStorage.Stages
set_option autoImplicit false

/-! # Attaches of one file system side by side

Any number of callers attach a file system whose target is free. Whatever turns they take, one export is
created at most, and those that are done have all waited for that one. The invariant
(`System.Exporting`) ties the callers to the stage that the control plane is at: what is left of each
flow copes from that stage on, and an export has been created if and only if the first stage is left. -/

namespace VolumeDriver

open ControlPlane Fallible

/-! ## What a finished attach saw last -/

namespace Controller

/-- A `waitForActive` ends when the export is seen in place. -/
theorem ends_waitForActive_ok {limits : Limits} {id : String} {trace : List (Event signature)}
    {e : Export} (h : Ends (waitForActive limits id) trace (.ok e)) :
    e.state = .active ∧ ∃ before, trace = before ++ [exchanged (.getExport id) (.ok e)] := by
  obtain ⟨before, last, rfl, hlast⟩ := ends_pollTimes_ok h
  obtain ⟨looked, rest, seen, rfl, hlook, hrest⟩ := ends_bind_ok hlast
  obtain rfl := ends_request (ends_wrap_ok hlook)
  split at hrest
  · cases (ends_pure hrest).2
  · rename_i hstate
    obtain ⟨rfl, he⟩ := ends_pure hrest
    cases he
    exact ⟨hstate, before, by simp⟩
  · cases (ends_throw hrest).2

end Controller

namespace FileStorage

/-- A `FileStorage.attach` that succeeds has seen an export in place with its last look. -/
theorem ends_attach_ok {limits : Controller.Limits} {options : Options} {node : String}
    {trace : List (Event driverSignature)} {status : Status}
    (h : Ends (attach limits options node) trace (.ok status)) :
    ∃ before id e, Export.state e = .active ∧
      trace = before ++ [(Controller.exchanged (.getExport id) (.ok e)).controlled] := by
  obtain ⟨named, rest, name, rfl, _, h₁⟩ := ends_bind_ok h
  obtain ⟨opened, rest, session, rfl, _, h₂⟩ := ends_bind_ok h₁
  obtain ⟨found, rest, t, rfl, _, h₃⟩ := ends_bind_ok h₂
  obtain ⟨asked, rest, requested, rfl, _, h₄⟩ := ends_bind_ok h₃
  obtain ⟨_, rest, last, rfl, hw, h₅⟩ := ends_bind_ok h₄
  obtain ⟨waited, rfl, hwait⟩ := ends_onController_ok hw
  obtain ⟨hstate, looked, rfl⟩ := Controller.ends_waitForActive_ok hwait
  obtain ⟨rfl, _⟩ := ends_pure h₅
  exact ⟨named ++ (opened ++ (found ++ (asked ++ looked.map Event.controlled))), requested.id, last,
    hstate, by simp⟩

end FileStorage

namespace InMemory

/-! ## Callers -/

/-- A `Caller` that has just been called to attach a file system. -/
def Caller.exporting (timing : Timing) (options : Options) (node : String) : Caller :=
  ⟨timing, .attach options node, [], (FileStorage.driver timing).dispatch (.attach options node)⟩

/-- A world in which some attaches of file systems have just been called for. -/
def System.exporting (w : World) (callOuts : List (Timing × Options × String)) : System :=
  ⟨w, callOuts.map fun c => .exporting c.1 c.2.1 c.2.2⟩

/-- All that callers have done so far. -/
def System.past (s : System) : List (Event driverSignature) :=
  s.callers.flatMap Caller.past

/-- The callers and the control plane at a stage `i` of an export. -/
structure System.Exporting (p : Picture) (t : ExportTarget) (s : System) (i : ExportStage) : Prop where
  stage : (exportCourse p t).At i s.world
  copes : ∀ c ∈ s.callers, c.rest.Copes (exportCourse p t) i fun status j =>
    status = { Status.success with device := some t.path } ∧ j = .active
  /-- callers are where their pasts have led them -/
  led : ∀ c ∈ s.callers, ∃ limits options node,
    (FileStorage.attach limits options node).answer.Path c.past c.rest
  looks : ∀ c ∈ s.callers, ∀ e ∈ c.past, LooksAt (p.cloud.newExport t) e
  creations : s.past.countP isCreation = (i.created p t).length

section Exporting

variable {p : Picture} {t : ExportTarget} {s : System} {i : ExportStage}

/-- In `System.past`, one more event of one caller is one more event of all. -/
theorem countP_past {callers : List Caller} {index : Nat} {c : Caller} {e : Event driverSignature}
    {rest : Answering} (P : Event driverSignature → Bool) (hc : callers[index]? = some c) :
    ((callers.set index (c.goOn e rest)).flatMap Caller.past).countP P =
      (callers.flatMap Caller.past).countP P + if P e then 1 else 0 := by
  induction callers generalizing index with
  | nil => cases hc
  | cons d callers ih =>
    cases index with
    | zero =>
      cases hc
      simp only [List.set_cons_zero, List.flatMap_cons, List.countP_append, Caller.goOn,
        List.countP_singleton]
      omega
    | succ index =>
      simp only [List.set_cons_succ, List.flatMap_cons, List.countP_append]
      rw [ih (List.getElem?_cons_succ ▸ hc), Nat.add_assoc]

/-- As many exports are in `ExportStage.created` as requests for one have succeeded. -/
theorem length_created {e : Event driverSignature} {j : ExportStage} {new : Export}
    (h : ExportStage.Moves new e i j) :
    (j.created p t).length = (i.created p t).length + if isCreation e then 1 else 0 := by
  have hlater := h.later
  cases hcreation : isCreation e with
  | true =>
    obtain ⟨rfl, hj⟩ := h.creates.1 hcreation
    cases j with
    | unserved => exact absurd rfl hj
    | _ => rfl
  | false =>
    have hstays : i = .unserved → j = .unserved := fun hi =>
      Decidable.byContradiction fun hj => Bool.false_ne_true (hcreation ▸ h.creates.2 ⟨hi, hj⟩)
    cases i with
    | unserved =>
      rw [hstays rfl]
      rfl
    | creating | active =>
      cases j with
      | unserved => exact absurd hlater (by decide)
      | _ => rfl

/-- The invariant `System.Exporting` survives an action of one caller. -/
theorem System.Exporting.act (h : s.Exporting p t i) (index : Nat) :
    ∃ j, (s.take (.act index)).Exporting p t j := by
  rw [System.take]
  cases hc : s.callers[index]? with
  | none => exact ⟨i, h⟩
  | some c =>
    have hmem := List.mem_of_getElem? hc
    rcases c.act_cases s.world with hact | ⟨action, next, hrest, hact⟩
    · -- A caller that has its answer is put back as it was.
      have hset : s.callers.set index c = s.callers := by
        obtain ⟨hlt, rfl⟩ := List.getElem?_eq_some_iff.1 hc
        exact List.set_getElem_self hlt
      simp only [hact, hset]
      exact ⟨i, h⟩
    · have hcopes := h.copes c hmem
      rw [hrest] at hcopes
      obtain ⟨j, hmoves, hstage, hnext⟩ := hcopes i s.world (Nat.le_refl _) h.stage
      simp only [hact]
      refine ⟨j, hstage, ?_, ?_, ?_, ?_⟩
      · intro d hd
        rcases List.mem_or_eq_of_mem_set hd with hd | rfl
        · exact (h.copes d hd).later hmoves.later
        · exact hnext
      · intro d hd
        rcases List.mem_or_eq_of_mem_set hd with hd | rfl
        · exact h.led d hd
        · obtain ⟨limits, options, node, hpath⟩ := h.led c hmem
          exact ⟨limits, options, node, (hrest ▸ hpath).snoc _⟩
      · intro d hd e he
        rcases List.mem_or_eq_of_mem_set hd with hd | rfl
        · exact h.looks d hd e he
        · rcases List.mem_append.1 he with he | he
          · exact h.looks c hmem e he
          · obtain rfl := List.mem_singleton.1 he
            exact hmoves.looks
      · rw [System.past, countP_past isCreation hc, length_created hmoves]
        exact congrArg (· + _) h.creations

theorem System.Exporting.run (h : s.Exporting p t i) (turns : List Nat) :
    ∃ j, (s.run (turns.map .act)).Exporting p t j := by
  induction turns generalizing s i with
  | nil => exact ⟨i, h⟩
  | cons index turns ih =>
    obtain ⟨j, hj⟩ := h.act index
    exact ih hj

end Exporting

section Start

variable {w : World} {session : Session} {name : String} {t : ExportTarget}

/-- In the beginning `System.Exporting` holds with a target that is not served. -/
theorem exporting_start (h : Exportless w session name t)
    {callOuts : List (Timing × Options × String)}
    (hcallOuts : ∀ c ∈ callOuts, c.2.1.volumeName? = some name ∧ w.cloud.Suffice c.1.limits) :
    (System.exporting w callOuts).Exporting w.picture t .unserved := by
  have hcallers : ∀ c ∈ (System.exporting w callOuts).callers, ∃ call ∈ callOuts,
      c = .exporting call.1 call.2.1 call.2.2 := by
    intro c hc
    obtain ⟨call, hcall, rfl⟩ := List.mem_map.1 hc
    exact ⟨call, hcall, rfl⟩
  refine ⟨⟨h.calm, rfl⟩, ?_, ?_, ?_, ?_⟩
  · intro c hc
    obtain ⟨call, hcall, rfl⟩ := hcallers c hc
    obtain ⟨hname, hlimits⟩ := hcallOuts call hcall
    exact copes_attach h hlimits hname call.2.2
  · intro c hc
    obtain ⟨call, _, rfl⟩ := hcallers c hc
    exact ⟨call.1.limits, call.2.1, call.2.2, .stop _⟩
  · intro c hc e he
    obtain ⟨call, _, rfl⟩ := hcallers c hc
    cases he
  · have hpast : (System.exporting w callOuts).past = [] := by
      rw [System.past, List.flatMap_eq_nil_iff]
      intro c hc
      obtain ⟨call, _, rfl⟩ := hcallers c hc
      rfl
    rw [hpast]
    rfl

/-- **Attaches of one file system side by side agree on one export.** Whatever `turns` they take: the
    exports that have been created, with as many requests that succeeded, are one at most; and each attach
    that is done reports success with the path of the target, after it has seen the export that was created
    in place, where that export is. -/
theorem attaches_side_by_side (h : Exportless w session name t)
    (callOuts : List (Timing × Options × String))
    (hcallOuts : ∀ c ∈ callOuts, c.2.1.volumeName? = some name ∧ w.cloud.Suffice c.1.limits)
    (turns : List Nat) :
    let s := (System.exporting w callOuts).run (turns.map .act)
    ∃ created : List Export, s.world.cloud.exports = w.cloud.exports ++ created ∧
      s.past.countP isCreation = created.length ∧ created.length ≤ 1 ∧
      ∀ c ∈ s.callers, ∀ status, c.rest = .done status →
        status = { Status.success with device := some t.path } ∧
        ∃ e before, created = [e] ∧ e.state = .active ∧
          c.past = before ++ [(Controller.exchanged (.getExport e.id) (.ok e)).controlled] := by
  intro s
  obtain ⟨i, hs⟩ := (exporting_start h hcallOuts).run turns
  refine ⟨i.created w.picture t, ?_, hs.creations, by cases i <;> simp [ExportStage.created], ?_⟩
  · have hexports : s.world.cloud.exports = (i.picture w.picture t).cloud.exports :=
      congrArg (fun p : Picture => p.cloud.exports) hs.stage.2
    rw [hexports, ExportStage.exports_picture h.picture.sound]
    rfl
  · intro c hc status hrest
    have hcopes := hs.copes c hc
    rw [hrest] at hcopes
    obtain ⟨rfl, rfl⟩ := hcopes i (Nat.le_refl _)
    obtain ⟨limits, options, node, hpath⟩ := hs.led c hc
    rw [hrest] at hpath
    obtain ⟨before, id, e, hstate, hpast⟩ :=
      FileStorage.ends_attach_ok (ends_answer_success hpath rfl)
    have hlooks := hs.looks c hc (Controller.exchanged (.getExport id) (.ok e)).controlled
      (by rw [hpast]; simp)
    obtain ⟨rfl, state, he⟩ := hlooks
    obtain rfl := Except.ok.inj he
    obtain rfl : state = .active := hstate
    exact ⟨rfl, _, before, rfl, rfl, hpast⟩

end Start

/-- Two nodes that attach the same file system. -/
def rivals : List (Timing × Options × String) :=
  [({}, naming "f", "node-1"), ({}, naming "f", "node-2")]

/-- The turns that `rivals` take, so that both search before one of them has created an export. -/
def rivalTurns : List Nat :=
  (List.replicate 12 [0, 1]).flatten

theorem exportless_sharedTargetWorld :
    Exportless sharedTargetWorld mountableSession "f" (sharedTarget "f") where
  opens := rfl
  calm := by decide
  located := ⟨rfl, rfl, "ip", [], rfl, rfl⟩
  free := by decide
  sound := soundExports_sharedTargetWorld
  size := by decide
  long := by decide
  targetsLong := by decide

/-- Of the two `rivals` the second one is refused an export, and waits for that of the first one. -/
theorem attaches_side_by_side_rivals :
    let s := (System.exporting sharedTargetWorld rivals).run (rivalTurns.map .act)
    s.callers.map Caller.outcome = [some .success, some .success] ∧
    s.past.countP isCreation = 1 ∧
    ∃ created : List Export, s.world.cloud.exports = sharedTargetWorld.cloud.exports ++ created ∧
      s.past.countP isCreation = created.length ∧ created.length ≤ 1 ∧
      ∀ c ∈ s.callers, ∀ status, c.rest = .done status →
        status = { Status.success with device := some (sharedTarget "f").path } ∧
        ∃ e before, created = [e] ∧ e.state = .active ∧
          c.past = before ++ [(Controller.exchanged (.getExport e.id) (.ok e)).controlled] := by
  refine ⟨by decide +kernel, by decide +kernel, ?_⟩
  refine attaches_side_by_side exportless_sharedTargetWorld rivals (fun c hc => ?_) rivalTurns
  have hlimits : sharedTargetWorld.cloud.Suffice ({} : Controller.Limits) :=
    ⟨by decide, by decide, by decide⟩
  rcases List.mem_cons.1 hc with rfl | hc
  · exact ⟨rfl, hlimits⟩
  · obtain rfl := List.mem_singleton.1 hc
    exact ⟨rfl, hlimits⟩

end InMemory

end VolumeDriver
