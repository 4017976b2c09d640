import VolumeDriver.Controller.Attachment
import VolumeDriver.Controller.FileSystemExport
import VolumeDriver.Host.BlockVolume
import VolumeDriver.Proofs.Flow.Script
set_option autoImplicit false

/-! # How long a wait takes and what it comes to

Five loops look at something until it is no longer on its way: an attachment that is made or undone
(`waitForAttached`, `waitForDetached`), an export that is made or undone (`waitForActive`, `waitForDeleted`),
and a device that appears (`waitForDevice`). Whatever they see, and for every number of looks that they may
take, it is told here how often they look, how often they pause, and what they come to (`Waits`). -/

namespace VolumeDriver

open ControlPlane Fallible

instance : DecidableEq Controller.signature.Action :=
  inferInstanceAs (DecidableEq Controller.Action)

instance : DecidableEq Host.signature.Action :=
  inferInstanceAs (DecidableEq Host.Action)

/-! ## Resources of the control plane -/

/-- What a wait for a resource is for: the state in which the resource is on its way (`progress`), the one
    that is waited for (`reached`), and what is made of everything else that may be seen. -/
structure Goal (ρ State ε α : Type) where
  state : ρ → State
  /-- on its way -/
  progress : State
  reached : State
  value : ρ → α
  refused : Fault → Except ε α
  unexpected : State → ε
  /-- what comes of so many looks that all found it on its way -/
  exhausted : Nat → ε

namespace Goal

variable {ρ State ε α : Type} [DecidableEq State] (g : Goal ρ State ε α)

/-- The resource is on its way: an answer that is not a fault, with the `Goal.progress` state. -/
def InProgress (response : Except Fault ρ) : Prop :=
  ∃ found, response = .ok found ∧ g.state found = g.progress

/-- What a wait comes to by what it has seen at last, if that was not `InProgress`. -/
def decided : Except Fault ρ → Except ε α
  | .error fault => g.refused fault
  | .ok found =>
    if g.state found = g.reached then .ok (g.value found) else .error (g.unexpected (g.state found))

/-- What a look makes of what it sees: `none` stands for a resource that is on its way. -/
def seen : Except Fault ρ → Except ε (Option α)
  | .error fault => (g.refused fault).map some
  | .ok found =>
    if g.state found = g.progress then .ok none else (g.decided (.ok found)).map some

variable {g}

theorem seen_of_inProgress {response : Except Fault ρ} (h : g.InProgress response) :
    g.seen response = .ok none := by
  obtain ⟨found, rfl, hstate⟩ := h
  exact if_pos hstate

theorem seen_of_not_inProgress {response : Except Fault ρ} (h : ¬g.InProgress response) :
    g.seen response = (g.decided response).map some := by
  cases response with
  | error fault => rfl
  | ok found => exact if_neg fun hstate => h ⟨found, rfl, hstate⟩

end Goal

namespace Controller

/-- A pause of the controller side as an action. -/
def rest (interval : Nat) : signature.Action :=
  Action.pause interval

section pollTimes

variable {ε α : Type} {script : Script signature} {action : signature.Action} {interval retries : Nat}
  {exhausted : ε} {look : Run ε (Option α)} {seen : Nat → Except ε (Option α)}

/-- A look asks for one thing, and what it comes to (`seen`) depends on how often that was asked for
    before. -/
def LooksBy (script : Script signature) (action : signature.Action) (look : Run ε (Option α))
    (seen : Nat → Except ε (Option α)) : Prop :=
  ∀ asked, runs script.answer look asked = (seen (asked.count action), asked ++ [action])

/-- A look of `pollTimes` in vain, with the pause after it. -/
theorem runs_pollTimes_none (hlook : LooksBy script action look seen)
    {asked : List signature.Action} (hnone : seen (asked.count action) = .ok none) :
    runs script.answer (pollTimes interval exhausted look (retries + 1)) asked =
      runs script.answer (pollTimes interval exhausted look retries)
        (asked ++ [action, rest interval]) := by
  have hrun := hlook asked
  rw [hnone] at hrun
  rw [pollTimes, runs_bind_ok hrun]
  have hpause : runs script.answer (liftM (pause interval) : Run ε Unit) (asked ++ [action]) =
      (.ok (), asked ++ [action] ++ [rest interval]) := rfl
  rw [List.append_assoc] at hpause
  exact runs_bind_ok hpause

/-- A look of `pollTimes` that settles it. -/
theorem runs_pollTimes_some (hlook : LooksBy script action look seen)
    {asked : List signature.Action} {result : Except ε α}
    (hsome : seen (asked.count action) = result.map some) :
    runs script.answer (pollTimes interval exhausted look (retries + 1)) asked =
      (result, asked ++ [action]) := by
  have hrun := hlook asked
  rw [hsome] at hrun
  rw [pollTimes]
  cases result with
  | ok a => exact runs_bind_ok hrun
  | error fault => exact runs_bind_error hrun

/-- All looks of `pollTimes` in vain, each with a pause after it (`inTurns`). -/
theorem runs_pollTimes_vain (hlook : LooksBy script action look seen)
    (hne : action ≠ rest interval) {asked : List signature.Action}
    (hnone : ∀ i < retries, seen (asked.count action + i) = .ok none) :
    runs script.answer (pollTimes interval exhausted look retries) asked =
      (.error exhausted, asked ++ inTurns action (rest interval) retries retries) := by
  induction retries generalizing asked with
  | zero => exact Prod.ext rfl (List.append_nil _).symm
  | succ retries ih =>
    rw [runs_pollTimes_none hlook (hnone 0 (Nat.succ_pos _)), ih, inTurns_succ, List.append_assoc]
    · rfl
    · intro i hi
      rw [count_look_pause hne]
      exact hnone (i + 1) (Nat.succ_lt_succ hi)

/-- Some looks of `pollTimes` in vain before one that settles it, after which there is no pause. -/
theorem runs_pollTimes_settled (hlook : LooksBy script action look seen)
    (hne : action ≠ rest interval) {asked : List signature.Action} {k : Nat} (hk : k < retries)
    {result : Except ε α} (hnone : ∀ i < k, seen (asked.count action + i) = .ok none)
    (hsome : seen (asked.count action + k) = result.map some) :
    runs script.answer (pollTimes interval exhausted look retries) asked =
      (result, asked ++ inTurns action (rest interval) (k + 1) k) := by
  -- One look in vain and its pause are put to what has been asked for before.
  induction k generalizing asked retries with
  | zero =>
    obtain ⟨retries, rfl⟩ := Nat.exists_eq_add_one_of_ne_zero (Nat.ne_of_gt hk)
    exact runs_pollTimes_some hlook hsome
  | succ k ih =>
    obtain ⟨retries, rfl⟩ := Nat.exists_eq_add_one_of_ne_zero (Nat.ne_zero_of_lt hk)
    rw [runs_pollTimes_none hlook (hnone 0 (Nat.succ_pos _)), ih (Nat.lt_of_succ_lt_succ hk),
      inTurns_succ, List.append_assoc]
    · rfl
    · intro i hi
      rw [count_look_pause hne]
      exact hnone (i + 1) (Nat.succ_lt_succ hi)
    · rw [count_look_pause hne]
      exact hsome

variable {ρ State : Type} [DecidableEq State]

/-- **A wait for a resource is decided by the first answer that is not of one on its way**
    (`Goal.InProgress`, `Goal.decided`). -/
theorem waits_pollTimes (g : Goal ρ State ε α) {responses : Nat → Except Fault ρ}
    (hlook : LooksBy script action look fun i => g.seen (responses i))
    (hne : action ≠ rest interval) (retries : Nat) (exhausted : ε) :
    Waits retries retries (fun i => g.InProgress (responses i)) exhausted
      (fun i => g.decided (responses i)) action (rest interval)
      (runs script.answer (pollTimes interval exhausted look retries) []) := by
  refine waits_of_cases hne (Nat.le_refl _) (Nat.le_succ _) (fun hall => ?_)
    (fun k hk hbefore hat => ?_)
  · refine runs_pollTimes_vain hlook hne fun i hi => ?_
    rw [List.count_nil, Nat.zero_add]
    exact Goal.seen_of_inProgress (hall i hi)
  · refine runs_pollTimes_settled hlook hne hk (fun i hi => ?_) ?_
    · rw [List.count_nil, Nat.zero_add]
      exact Goal.seen_of_inProgress (hbefore i hi)
    · rw [List.count_nil, Nat.zero_add]
      exact Goal.seen_of_not_inProgress hat

/-- What a look sees is what one answer brings (`Goal.seen`), unless it is a fault. -/
theorem looksBy_bind (g : Goal ρ State ε α) {responses : Nat → Except Fault ρ} {m : Run ε ρ}
    {f : ρ → Run ε (Option α)} {wrap : Fault → ε}
    (hm : ∀ asked, runs script.answer m asked =
      ((responses (asked.count action)).mapError wrap, asked ++ [action]))
    (hrefused : ∀ fault, g.refused fault = .error (wrap fault))
    (hf : ∀ found asked, runs script.answer (f found) asked = (g.seen (.ok found), asked)) :
    LooksBy script action (m >>= f) fun i => g.seen (responses i) := by
  intro asked
  have hrun := hm asked
  simp only
  cases hresponse : responses (asked.count action) with
  | error fault =>
    rw [hresponse] at hrun
    rw [runs_bind_error hrun, Goal.seen, hrefused]
    rfl
  | ok found =>
    rw [hresponse] at hrun
    rw [runs_bind_ok hrun, hf]

/-- A look that has its own way with faults, by their `outcome`. -/
theorem looksBy_outcome (g : Goal ρ State ε α) {responses : Nat → Except Fault ρ}
    {m : Run ε (Except Fault ρ)} {f : Except Fault ρ → Run ε (Option α)}
    (hm : ∀ asked, runs script.answer m asked =
      (.ok (responses (asked.count action)), asked ++ [action]))
    (hf : ∀ response asked, runs script.answer (f response) asked = (g.seen response, asked)) :
    LooksBy script action (m >>= f) fun i => g.seen (responses i) := by
  intro asked
  rw [runs_bind_ok (hm asked), hf]

end pollTimes

/-- A request of the controller side as an action. -/
def asks (e : Exchange) : signature.Action :=
  Action.exchange e

theorem asks_ne_rest {e : Exchange} {interval : Nat} : asks e ≠ rest interval :=
  nofun

/-- How often a resource is looked at and paused for, and what that comes to, by `Waits` and the `Goal`. -/
def Meets {ρ State ε α : Type} [DecidableEq State] (g : Goal ρ State ε α) (policy : PollPolicy)
    (e : Exchange) (responses : Nat → Except Fault ρ)
    (run : Except ε α × List signature.Action) : Prop :=
  Waits policy.retries policy.retries (fun i => g.InProgress (responses i))
    (g.exhausted policy.retries) (fun i => g.decided (responses i)) (asks e) (rest policy.interval) run

theorem runs_wrap_request {ε : Type} {script : Script signature} (wrap : Fault → ε) (e : Exchange)
    (asked : List signature.Action) :
    runs script.answer ((request e).wrap wrap) asked =
      (Except.mapError wrap (script (asks e) (asked.count (asks e))), asked ++ [asks e]) :=
  runs_wrap _ _ _ _

/-! ### The four waits -/

/-- The `Goal` of an attachment that is made. -/
def attaching : Goal VolumeAttachment AttachmentState AttachmentFault VolumeAttachment where
  state := VolumeAttachment.state
  progress := .attaching
  reached := .attached
  value := id
  refused fault := .error (.controlPlane fault)
  unexpected state := .unexpectedState state "attach"
  exhausted retries := .retriesExceeded retries "attaching"

/-- The `Goal` of an attachment that is undone. -/
def detaching : Goal VolumeAttachment AttachmentState AttachmentFault Unit where
  state := VolumeAttachment.state
  progress := .detaching
  reached := .detached
  value _ := ()
  refused fault := .error (.controlPlane fault)
  unexpected state := .unexpectedState state "detach"
  exhausted retries := .retriesExceeded retries "detaching"

/-- The `Goal` of an export that is made. -/
def creating : Goal Export ExportState ExportFault Export where
  state := Export.state
  progress := .creating
  reached := .active
  value := id
  refused fault := .error (.controlPlane fault)
  unexpected state := .unexpectedState state "create"
  exhausted retries := .retriesExceeded retries "creating"

/-- The `Goal` of an export that is undone. It is gone as well if it cannot be found any more
    (`Fault.status?` is 404). -/
def deleting : Goal Export ExportState ExportFault Unit where
  state := Export.state
  progress := .deleting
  reached := .deleted
  value _ := ()
  refused fault := if fault.status? = some 404 then .ok () else .error (.controlPlane fault)
  unexpected state := .unexpectedState state "delete"
  exhausted retries := .retriesExceeded retries "deleting"

variable (script : Script signature) (limits : Limits) (id : String)

theorem meets_waitForAttached :
    Meets attaching limits.poll (.getVolumeAttachment id) (script (asks (.getVolumeAttachment id)))
      (runs script.answer (waitForAttached limits id) []) := by
  refine waits_pollTimes attaching (looksBy_bind attaching
    (runs_wrap_request _ (.getVolumeAttachment id)) (fun _ => rfl) ?_) asks_ne_rest _ _
  intro found asked
  rw [Goal.seen, Goal.decided, attaching]
  cases hstate : found.state <;> simp [hstate] <;> rfl

theorem meets_waitForDetached :
    Meets detaching limits.poll (.getVolumeAttachment id) (script (asks (.getVolumeAttachment id)))
      (runs script.answer (waitForDetached limits id) []) := by
  refine waits_pollTimes detaching (looksBy_bind detaching
    (runs_wrap_request _ (.getVolumeAttachment id)) (fun _ => rfl) ?_) asks_ne_rest _ _
  intro found asked
  rw [Goal.seen, Goal.decided, detaching]
  cases hstate : found.state <;> simp [hstate] <;> rfl

theorem meets_waitForActive :
    Meets creating limits.poll (.getExport id) (script (asks (.getExport id)))
      (runs script.answer (waitForActive limits id) []) := by
  refine waits_pollTimes creating (looksBy_bind creating
    (runs_wrap_request _ (.getExport id)) (fun _ => rfl) ?_) asks_ne_rest _ _
  intro found asked
  rw [Goal.seen, Goal.decided, creating]
  cases hstate : found.state <;> simp [hstate] <;> rfl

theorem meets_waitForDeleted :
    Meets deleting limits.poll (.getExport id) (script (asks (.getExport id)))
      (runs script.answer (waitForDeleted limits id) []) := by
  refine waits_pollTimes deleting (looksBy_outcome deleting
    (fun asked => runs_outcome _ (request (.getExport id)) asked) ?_) asks_ne_rest _ _
  intro response asked
  cases response with
  | error fault =>
    by_cases hgone : fault.status? = some 404
    · have hnotFound : fault.isNotFound = true := decide_eq_true hgone
      simp only [hnotFound, if_true, Goal.seen, deleting, hgone]
      rfl
    · have hnotFound : ¬fault.isNotFound = true := fun h => hgone (of_decide_eq_true h)
      simp only [hnotFound, if_false, Goal.seen, deleting, hgone]
      rfl
  | ok found =>
    rw [Goal.seen, Goal.decided, deleting]
    cases hstate : found.state <;> simp [hstate] <;> rfl

end Controller

/-! ## Devices -/

namespace Host

/-- A look for a device (`Operation.deviceExists`) as an action. -/
def checks (device : String) : signature.Action :=
  Action.operate (.deviceExists device)

/-- A pause of the host side as an action. -/
def rest (interval : Nat) : signature.Action :=
  Action.pause interval

theorem checks_ne_rest {device : String} {interval : Nat} : checks device ≠ rest interval :=
  nofun

/-- What the looks for a device (`checks`) bring, the first, the second and so on. -/
def present (script : Script signature) (device : String) : Nat → Except Fault Bool :=
  script (checks device)

section lookForDevice

variable {script : Script signature} {device : String} {interval attempts : Nat} {exhausted : Fault}
  {asked : List signature.Action}

variable (script device asked) in
theorem runs_operate_deviceExists :
    runs script.answer (operate (.deviceExists device) : Run Bool) asked =
      (present script device (asked.count (checks device)), asked ++ [checks device]) :=
  rfl

/-- The last look of `lookForDevice` in vain, after which there is no pause. -/
theorem runs_lookForDevice_last
    (habsent : present script device (asked.count (checks device)) = .ok false) :
    runs script.answer (lookForDevice device interval exhausted 1) asked =
      (.error exhausted, asked ++ [checks device]) := by
  have hrun := runs_operate_deviceExists script device asked
  rw [habsent] at hrun
  exact runs_bind_ok hrun

/-- A look of `lookForDevice` in vain, with the pause before the next one. -/
theorem runs_lookForDevice_absent
    (habsent : present script device (asked.count (checks device)) = .ok false) :
    runs script.answer (lookForDevice device interval exhausted (attempts + 2)) asked =
      runs script.answer (lookForDevice device interval exhausted (attempts + 1))
        (asked ++ [checks device, rest interval]) := by
  have hrun := runs_operate_deviceExists script device asked
  rw [habsent] at hrun
  have hpause : runs script.answer (liftM (pause interval) : Run Unit) (asked ++ [checks device]) =
      (.ok (), asked ++ [checks device] ++ [rest interval]) := rfl
  rw [List.append_assoc] at hpause
  exact (runs_bind_ok hrun).trans (runs_bind_ok hpause)

/-- A look of `lookForDevice` that settles it, be it with a fault. -/
theorem runs_lookForDevice_settled
    (hpresent : present script device (asked.count (checks device)) ≠ .ok false) :
    runs script.answer (lookForDevice device interval exhausted (attempts + 1)) asked =
      ((present script device (asked.count (checks device))).map fun _ => (),
        asked ++ [checks device]) := by
  have hrun := runs_operate_deviceExists script device asked
  revert hrun hpresent
  generalize present script device (asked.count (checks device)) = response
  intro hpresent hrun
  match response with
  | .error fault => exact runs_bind_error hrun
  | .ok true => exact runs_bind_ok hrun
  | .ok false => exact absurd rfl hpresent

/-- All looks of `lookForDevice` in vain, with a pause between any two. -/
theorem runs_lookForDevice_vain
    (habsent : ∀ i < attempts, present script device (asked.count (checks device) + i) = .ok false) :
    runs script.answer (lookForDevice device interval exhausted attempts) asked =
      (.error exhausted,
        asked ++ inTurns (checks device) (rest interval) attempts (attempts - 1)) := by
  induction attempts generalizing asked with
  | zero => exact Prod.ext rfl (List.append_nil _).symm
  | succ attempts ih =>
    cases attempts with
    | zero => exact runs_lookForDevice_last (habsent 0 Nat.one_pos)
    | succ attempts =>
      rw [runs_lookForDevice_absent (habsent 0 (Nat.succ_pos _)), ih]
      · rw [Nat.add_sub_cancel, Nat.add_sub_cancel, inTurns_succ, List.append_assoc]
        rfl
      · intro i hi
        rw [count_look_pause checks_ne_rest]
        exact habsent (i + 1) (Nat.succ_lt_succ hi)

/-- Some looks of `lookForDevice` in vain before one that settles it. -/
theorem runs_lookForDevice_after {k : Nat} (hk : k < attempts)
    (habsent : ∀ i < k, present script device (asked.count (checks device) + i) = .ok false)
    (hpresent : present script device (asked.count (checks device) + k) ≠ .ok false) :
    runs script.answer (lookForDevice device interval exhausted attempts) asked =
      ((present script device (asked.count (checks device) + k)).map fun _ => (),
        asked ++ inTurns (checks device) (rest interval) (k + 1) k) := by
  induction k generalizing asked attempts with
  | zero =>
    obtain ⟨attempts, rfl⟩ := Nat.exists_eq_add_one_of_ne_zero (Nat.ne_of_gt hk)
    exact runs_lookForDevice_settled hpresent
  | succ k ih =>
    -- A look is left after this one, so the loop pauses before it.
    obtain ⟨attempts, rfl⟩ := Nat.exists_eq_add_of_le (Nat.succ_le_of_lt hk)
    have hnext : k < k + 1 + attempts := by omega
    rw [show k + 1 + 1 + attempts = k + attempts + 2 by omega,
      runs_lookForDevice_absent (habsent 0 (Nat.succ_pos _)),
      show k + attempts + 1 = k + 1 + attempts by omega, ih hnext]
    · rw [count_look_pause checks_ne_rest, inTurns_succ, List.append_assoc]
      rfl
    · intro i hi
      rw [count_look_pause checks_ne_rest]
      exact habsent (i + 1) (Nat.succ_lt_succ hi)
    · rw [count_look_pause checks_ne_rest]
      exact hpresent

end lookForDevice

/-- **A wait for a device does not pause after its last look**, so `waitForDevice` may pause one time less
    than it may look. -/
theorem waits_waitForDevice (script : Script signature) (device : String) (wait : DeviceWait) :
    Waits wait.attempts (max wait.attempts 1 - 1) (fun i => present script device i = .ok false)
      (.deviceMissing device wait.attempts)
      (fun i => (present script device i).map fun _ => ()) (checks device) (rest wait.interval)
      (runs script.answer (waitForDevice device wait) []) := by
  refine waits_of_cases checks_ne_rest (by omega) (by omega) (fun hall => ?_)
    (fun k hk hbefore hat => ?_)
  · rw [show max wait.attempts 1 - 1 = wait.attempts - 1 by omega]
    refine runs_lookForDevice_vain fun i hi => ?_
    rw [List.count_nil, Nat.zero_add]
    exact hall i hi
  · have hzero (i : Nat) : ([] : List signature.Action).count (checks device) + i = i := by simp
    have hrun : runs script.answer (waitForDevice device wait) [] = _ :=
      runs_lookForDevice_after hk (fun i hi => by rw [hzero]; exact hbefore i hi)
        (by rw [hzero]; exact hat)
    rw [hzero] at hrun
    exact hrun

/-- A `waitForDevice` comes to its own `Fault.deviceMissing` exactly if all looks are in vain, or if a look
    fails with that itself. -/
theorem waitForDevice_missing_iff (script : Script signature) (device : String) (wait : DeviceWait) :
    (runs script.answer (waitForDevice device wait) []).1 =
        .error (.deviceMissing device wait.attempts) ↔
      (wait.attempts : ℕ∞) ≤ leading (fun i => present script device i = .ok false) ∨
        ∃ i < wait.attempts, leading (fun i => present script device i = .ok false) = i ∧
          present script device i = .error (.deviceMissing device wait.attempts) := by
  have hwaits := waits_waitForDevice script device wait
  constructor
  · intro hmissing
    rcases le_leading_or (fun i => present script device i = .ok false) wait.attempts with
      hall | ⟨k, hk, hleading⟩
    · exact .inl hall
    · refine .inr ⟨k, hk, hleading, ?_⟩
      rw [hwaits.decided k hk hleading] at hmissing
      cases hpresent : present script device k with
      | error fault =>
        rw [hpresent] at hmissing
        cases hmissing
        rfl
      | ok found =>
        rw [hpresent] at hmissing
        cases hmissing
  · rintro (hall | ⟨k, hk, hleading, hpresent⟩)
    · exact hwaits.exhausted hall
    · rw [hwaits.decided k hk hleading, hpresent]
      rfl

/-- A host on which every operation fails, and with a device that is missing after two looks. -/
def lostDevice : Script signature
  | .operate _, _ => .error (.deviceMissing "/dev/sdb" 2)
  | .pause _, _ => ()

/-- **A device may be missing after fewer looks than there are attempts.** A fault of `deviceExists` is passed
    on as it is, so one that is a `Fault.deviceMissing` itself ends the wait at the first look of two, though
    no look has found the device absent. -/
theorem waitForDevice_missing_lostDevice :
    runs lostDevice.answer (waitForDevice "/dev/sdb" { attempts := 2 }) [] =
        (.error (.deviceMissing "/dev/sdb" 2), [checks "/dev/sdb"]) ∧
      leading (fun i => present lostDevice "/dev/sdb" i = .ok false) = 0 := by
  refine ⟨rfl, ?_⟩
  rw [← Nat.cast_zero, leading_eq_natCast_iff]
  exact ⟨nofun, nofun⟩

end Host

/-- **Every wait takes as long as what it sees makes it take, and comes to what it sees at last.** For a
    resource that is what its `Goal` makes of it. For a device it is whatever the look that did not find it
    absent has brought, a fault included; so a wait for a device ends in its own `Fault.deviceMissing` if all
    looks are in vain, or if one fails with just that. -/
theorem waits_as_seen :
    (∀ (script : Script Controller.signature) (limits : Controller.Limits) (id : String),
      Controller.Meets Controller.attaching limits.poll (.getVolumeAttachment id)
          (script (Controller.asks (.getVolumeAttachment id)))
          (runs script.answer (Controller.waitForAttached limits id) []) ∧
        Controller.Meets Controller.detaching limits.poll (.getVolumeAttachment id)
          (script (Controller.asks (.getVolumeAttachment id)))
          (runs script.answer (Controller.waitForDetached limits id) []) ∧
        Controller.Meets Controller.creating limits.poll (.getExport id)
          (script (Controller.asks (.getExport id)))
          (runs script.answer (Controller.waitForActive limits id) []) ∧
        Controller.Meets Controller.deleting limits.poll (.getExport id)
          (script (Controller.asks (.getExport id)))
          (runs script.answer (Controller.waitForDeleted limits id) [])) ∧
    ∀ (script : Script Host.signature) (device : String) (wait : DeviceWait),
      Waits wait.attempts (max wait.attempts 1 - 1)
          (fun i => Host.present script device i = .ok false) (.deviceMissing device wait.attempts)
          (fun i => (Host.present script device i).map fun _ => ()) (Host.checks device)
          (Host.rest wait.interval) (runs script.answer (Host.waitForDevice device wait) []) ∧
        ((runs script.answer (Host.waitForDevice device wait) []).1 =
            .error (.deviceMissing device wait.attempts) ↔
          (wait.attempts : ℕ∞) ≤ leading (fun i => Host.present script device i = .ok false) ∨
            ∃ i < wait.attempts,
              leading (fun i => Host.present script device i = .ok false) = i ∧
                Host.present script device i =
                  .error (.deviceMissing device wait.attempts)) := by
  refine ⟨fun script limits id => ⟨?_, ?_, ?_, ?_⟩, fun script device wait => ⟨?_, ?_⟩⟩
  · exact Controller.meets_waitForAttached script limits id
  · exact Controller.meets_waitForDetached script limits id
  · exact Controller.meets_waitForActive script limits id
  · exact Controller.meets_waitForDeleted script limits id
  · exact Host.waits_waitForDevice script device wait
  · exact Host.waitForDevice_missing_iff script device wait

end VolumeDriver
