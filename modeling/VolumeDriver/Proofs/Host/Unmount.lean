import VolumeDriver.Host.BlockVolume
import VolumeDriver.Proofs.InMemory.Node
set_option autoImplicit false

/-! # Unmounting a volume again and again

An attempt to unmount a volume (`unmountOnce`) undoes the mount, logs out of the target and removes the
target's record, in this order. What the target is it learns from the mount. So a fault before the mount is
undone is made up for by the next attempt, and one after it is not: the next attempt finds nothing mounted,
and what the initiator still knows of the target stays. -/

namespace VolumeDriver

/-! ## One mount at a directory -/

namespace MountTable

/-- Whether a mount is at a directory. -/
def isAt (path : String) (e : MountEntry) : Bool :=
  directory e.target = directory path

variable {table : List MountEntry} {path : String} {entry : MountEntry}

theorem top?_of_only (h : table.filter (isAt path) = [entry]) : top? table path = some entry := by
  have hreverse : table.reverse.filter (isAt path) = [entry] := by
    rw [List.filter_reverse, h, List.reverse_singleton]
  show table.reverse.find? (isAt path) = some entry
  rw [← List.head?_filter, hreverse, List.head?_cons]

theorem mem_of_top? (h : top? table path = some entry) : entry ∈ table :=
  List.mem_reverse.1 (List.mem_of_find?_eq_some h)

theorem any_of_top? (h : top? table path = some entry) (htarget : entry.target = path) :
    (table.any fun e => e.target = path) = true :=
  List.any_eq_true.2 ⟨entry, mem_of_top? h, decide_eq_true htarget⟩

/-- The mounts around the only one that `isAt` a directory. -/
theorem around_only (h : table.filter (isAt path) = [entry]) :
    ∃ before after, table = before ++ entry :: after ∧
      (∀ e ∈ before, isAt path e = false) ∧ ∀ e ∈ after, isAt path e = false := by
  obtain ⟨before, after, rfl, hbefore, _, hafter⟩ := List.filter_eq_cons_iff.1 h
  refine ⟨before, after, rfl, fun e he => Bool.eq_false_iff.2 (hbefore e he), fun e he => ?_⟩
  exact Bool.eq_false_iff.2 (List.filter_eq_nil_iff.1 hafter e he)

theorem isAt_of_target {e : MountEntry} (h : e.target = path) : isAt path e = true := by
  simp [isAt, h]

/-- Where `removeLast` undoes the only mount at a directory, none is left. -/
theorem top?_removeLast (h : table.filter (isAt path) = [entry]) (htarget : entry.target = path) :
    top? (InMemory.Node.removeLast path table) path = none := by
  obtain ⟨before, after, rfl, hbefore, hafter⟩ := around_only h
  have hskip : ∀ e ∈ after.reverse, ¬decide (e.target = path) = true := by
    intro e he heq
    have hat := isAt_of_target (of_decide_eq_true heq)
    rw [hafter e (List.mem_reverse.1 he)] at hat
    cases hat
  have hleft : InMemory.Node.removeLast path (before ++ entry :: after) = before ++ after := by
    simp [InMemory.Node.removeLast, List.eraseP_append_right _ hskip, htarget]
  rw [hleft]
  show (before ++ after).reverse.find? (isAt path) = none
  rw [List.find?_eq_none]
  intro e he
  rcases List.mem_append.1 (List.mem_reverse.1 he) with he | he
  · simp [hbefore e he]
  · simp [hafter e he]

/-- Mounts are undone by the name they were made under. -/
theorem any_target (h : table.filter (isAt path) = [entry]) :
    (table.any fun e => e.target = path) = decide (entry.target = path) := by
  obtain ⟨before, after, rfl, hbefore, hafter⟩ := around_only h
  have hnot : ∀ l : List MountEntry, (∀ e ∈ l, isAt path e = false) →
      (l.any fun e => e.target = path) = false := by
    intro l hl
    rw [List.any_eq_false]
    intro e he heq
    have hat := isAt_of_target (of_decide_eq_true heq)
    rw [hl e he] at hat
    cases hat
  rw [List.any_append, List.any_cons, hnot before hbefore, hnot after hafter]
  simp

end MountTable

namespace InMemory

open Host

/-! ## One attempt -/

/-- One `unmountVolume` of a directory. -/
def unmountOnce (directory : String) (w : World) : Except Host.Fault UnmountOutcome × World :=
  Fallible.runs World.hostAnswer (unmountVolume directory) w

/-- The part of `unmountVolume` in which the target of the mount is known. -/
def tearDown (directory : String) (target : IscsiTarget) : Host.Run UnmountOutcome := do
  operate (.unmount directory)
  operate (.logout target)
  operate (.removeRecord target)
  return .unmounted

section

variable {w : World} {n : Node} {directory : String} {entry : MountEntry} {target : IscsiTarget}
  {fault : Host.Fault} {table : List MountEntry}

theorem runs_operate_ok {o : Operation} {α : Type} {f : o.Value → Host.Run α} {value : o.Value}
    (h : w.node.operate o = (.ok value, n)) :
    Fallible.runs World.hostAnswer (operate o >>= f) w =
      Fallible.runs World.hostAnswer (f value) { w with node := n } :=
  Fallible.runs_bind_ok (by rw [runs_operate, h])

theorem runs_operate_error {o : Operation} {α : Type} {f : o.Value → Host.Run α}
    (h : w.node.operate o = (.error fault, n)) :
    Fallible.runs World.hostAnswer (operate o >>= f) w = (.error fault, { w with node := n }) :=
  Fallible.runs_bind_error (by rw [runs_operate, h])

variable (directory) in
theorem unmountOnce_of_mounts_error (h : w.node.operate .mounts = (.error fault, n)) :
    unmountOnce directory w = (.error fault, { w with node := n }) :=
  Fallible.runs_bind_error (runs_operate_error h)

theorem unmountOnce_of_none (h : w.node.operate .mounts = (.ok table, n))
    (hnone : MountTable.top? table directory = none) :
    unmountOnce directory w = (.ok .notMounted, { w with node := n }) := by
  refine (Fallible.runs_bind_ok (runs_operate_ok h)).trans ?_
  rw [hnone]
  rfl

/-- A mount whose device has no target is in the way of `unmountOnce`. -/
theorem unmountOnce_of_link_error (h : w.node.operate .mounts = (.ok table, n))
    (hsome : MountTable.top? table directory = some entry) {m : Node}
    (hlink : n.operate (.byPathLink entry.source) = (.error fault, m)) :
    unmountOnce directory w = (.error fault, { w with node := m }) := by
  refine (Fallible.runs_bind_ok (runs_operate_ok h)).trans ?_
  rw [hsome]
  exact runs_operate_error hlink

theorem unmountOnce_of_link (h : w.node.operate .mounts = (.ok table, n))
    (hsome : MountTable.top? table directory = some entry) {m : Node} {link : String}
    (hlink : n.operate (.byPathLink entry.source) = (.ok (some link), m))
    (htarget : IscsiTarget.ofDevicePath link = .ok target) :
    unmountOnce directory w =
      Fallible.runs World.hostAnswer (tearDown directory target) { w with node := m } := by
  refine (Fallible.runs_bind_ok (runs_operate_ok h)).trans ?_
  rw [hsome]
  refine (runs_operate_ok hlink).trans (Fallible.runs_bind_ok ?_)
  rw [Fallible.runs_ofExcept, targetOf, htarget]

theorem runs_tearDown {n₁ n₂ n₃ : Node} (hunmount : n.operate (.unmount directory) = (.ok (), n₁))
    (hlogout : n₁.operate (.logout target) = (.ok (), n₂))
    (hremove : n₂.operate (.removeRecord target) = (.ok (), n₃)) :
    Fallible.runs World.hostAnswer (tearDown directory target) { w with node := n } =
      (.ok .unmounted, { w with node := n₃ }) := by
  refine (runs_operate_ok (w := { w with node := n }) hunmount).trans ?_
  refine (runs_operate_ok (w := { w with node := n₁ }) hlogout).trans ?_
  exact runs_operate_ok (w := { w with node := n₂ }) hremove

end

/-! ## Hosts on which nothing fails -/

section

variable {n : Node} {directory : String} {target : IscsiTarget}

/-- The host on which the mount is undone. -/
def Node.unmounted (n : Node) (directory : String) : Node :=
  { n.noted (.unmount directory) with mounts := Node.removeLast directory n.mounts }

/-- The host that is no longer logged in to a target. -/
def Node.loggedOut (n : Node) (target : IscsiTarget) : Node :=
  { n.noted (.logout target) with
    sessions := n.sessions.erase target.iqn
    devices := n.devices.erase target.devicePath }

/-- The host that has no target on record. -/
def Node.forgotten (n : Node) (target : IscsiTarget) : Node :=
  { n.noted (.removeRecord target) with
    records := n.records.erase target.iqn
    automaticLogins := n.automaticLogins.erase target.iqn }

theorem Node.Calm.unmounted (h : n.Calm) (directory : String) : (n.unmounted directory).Calm :=
  h

theorem Node.Calm.loggedOut (h : n.Calm) (target : IscsiTarget) : (n.loggedOut target).Calm :=
  h

theorem operate_mounts (h : n.Calm) :
    n.operate .mounts = (.ok n.mounts, n.noted .mounts) :=
  Node.operate_calm h _

theorem operate_byPathLink {device : String} (h : n.Calm)
    (link : IscsiTarget.ofDevicePath device = .ok target) :
    n.operate (.byPathLink device) = (.ok (some device), n.noted (.byPathLink device)) := by
  refine (Node.operate_calm h _).trans ?_
  simp only [Node.respond, link]

theorem operate_unmount (h : n.Calm)
    (mounted : (n.mounts.any fun e => e.target = directory) = true) :
    n.operate (.unmount directory) = (.ok (), n.unmounted directory) :=
  (Node.operate_calm h _).trans (if_pos mounted)

variable (target) in
theorem operate_logout (h : n.Calm) :
    n.operate (.logout target) = (.ok (), n.loggedOut target) :=
  Node.operate_calm h _

variable (target) in
theorem operate_removeRecord (h : n.Calm) :
    n.operate (.removeRecord target) = (.ok (), n.forgotten target) :=
  Node.operate_calm h _

/-- An operation that is not the one made to fail. -/
theorem operate_beside {o : Operation} (name : String) (fault : Host.Fault) {value : o.Value}
    {m : Node} (h : n.Calm) (hne : Node.operationName o ≠ name)
    (hformat : ∀ device target fsType options, o ≠ .formatAndMount device target fsType options)
    (hcalm : n.operate o = (.ok value, m)) :
    (n.failNext name fault).operate o = (.ok value, m.failNext name fault) := by
  rw [Node.operate_failNext_ne h hne hformat, hcalm]

end

/-! ## Attempts until one succeeds -/

/-- The world that follows on attempts to unmount a directory (`unmountOnce`) up to the first that does not
    fail. -/
inductive UntilUnmounted (directory : String) : World → World → Prop
  | done {w w' : World} {outcome : UnmountOutcome}
      (attempt : unmountOnce directory w = (.ok outcome, w')) : UntilUnmounted directory w w'
  | again {w w' w'' : World} {fault : Host.Fault}
      (attempt : unmountOnce directory w = (.error fault, w'))
      (more : UntilUnmounted directory w' w'') : UntilUnmounted directory w w''

theorem UntilUnmounted.unique {directory : String} {w a b : World}
    (ha : UntilUnmounted directory w a) (hb : UntilUnmounted directory w b) : a = b := by
  induction ha with
  | done attempt =>
    cases hb with
    | done attempt' =>
      rw [attempt] at attempt'
      cases attempt'
      rfl
    | again attempt' _ =>
      rw [attempt] at attempt'
      cases attempt'
  | again attempt _ ih =>
    cases hb with
    | done attempt' =>
      rw [attempt] at attempt'
      cases attempt'
    | again attempt' more =>
      rw [attempt] at attempt'
      cases attempt'
      exact ih more

/-- Nothing is mounted at a directory, and the initiator knows nothing of a target. -/
def Node.Clean (n : Node) (directory iqn : String) : Prop :=
  MountTable.top? n.mounts directory = none ∧
    n.sessions.contains iqn = false ∧ n.records.contains iqn = false

/-- The world whose host was made to fail an operation by `Node.failNext`. -/
def World.failingHost (w : World) (name : String) (fault : Host.Fault) : World :=
  { w with node := w.node.failNext name fault }

section

variable {w : World} {n : Node} {directory name : String} {entry : MountEntry}
  {target : IscsiTarget} {fault : Host.Fault}

/-- The host that has found the target of a mount. -/
def Node.found (n : Node) (entry : MountEntry) : Node :=
  (n.noted .mounts).noted (.byPathLink entry.source)

theorem Node.Calm.found (h : n.Calm) (entry : MountEntry) : (n.found entry).Calm :=
  h

/-- The host on which a mount and its target are torn down. -/
def Node.tornDown (n : Node) (directory : String) (entry : MountEntry) (target : IscsiTarget) :
    Node :=
  (((n.found entry).unmounted directory).loggedOut target).forgotten target

/-- An `unmountOnce` with which nothing interferes undoes the mount on top, if that was made under the same
    spelling of the directory. -/
theorem unmountOnce_top (h : w.node.Calm)
    (top : MountTable.top? w.node.mounts directory = some entry)
    (link : IscsiTarget.ofDevicePath entry.source = .ok target)
    (htarget : entry.target = directory) :
    unmountOnce directory w =
      (.ok .unmounted, { w with node := w.node.tornDown directory entry target }) := by
  have mounted := MountTable.any_of_top? top htarget
  have hfound := unmountOnce_of_link (operate_mounts h) top
    (operate_byPathLink (h.noted .mounts) link) link
  rw [hfound]
  have hunmounted := (h.found entry).unmounted directory
  exact runs_tearDown (operate_unmount (h.found entry) mounted) (operate_logout _ hunmounted)
    (operate_removeRecord _ (hunmounted.loggedOut target))

theorem unmountOnce_calm (h : w.node.Calm)
    (only : w.node.mounts.filter (MountTable.isAt directory) = [entry])
    (link : IscsiTarget.ofDevicePath entry.source = .ok target)
    (htarget : entry.target = directory) :
    unmountOnce directory w =
      (.ok .unmounted, { w with node := w.node.tornDown directory entry target }) :=
  unmountOnce_top h (MountTable.top?_of_only only) link htarget

variable (target) in
theorem clean_tornDown (only : n.mounts.filter (MountTable.isAt directory) = [entry])
    (htarget : entry.target = directory) :
    (n.tornDown directory entry target).Clean directory target.iqn :=
  ⟨MountTable.top?_removeLast only htarget, Dictionary.contains_erase_self _ _,
    Dictionary.contains_erase_self _ _⟩

theorem runs_tearDown_of_unmount_error {m : Node}
    (h : n.operate (.unmount directory) = (.error fault, m)) :
    Fallible.runs World.hostAnswer (tearDown directory target) { w with node := n } =
      (.error fault, { w with node := m }) :=
  runs_operate_error (w := { w with node := n }) h

theorem runs_tearDown_of_logout_error {n₁ m : Node}
    (hunmount : n.operate (.unmount directory) = (.ok (), n₁))
    (h : n₁.operate (.logout target) = (.error fault, m)) :
    Fallible.runs World.hostAnswer (tearDown directory target) { w with node := n } =
      (.error fault, { w with node := m }) := by
  refine (runs_operate_ok (w := { w with node := n }) hunmount).trans ?_
  exact runs_operate_error (w := { w with node := n₁ }) h

theorem runs_tearDown_of_removeRecord_error {n₁ n₂ m : Node}
    (hunmount : n.operate (.unmount directory) = (.ok (), n₁))
    (hlogout : n₁.operate (.logout target) = (.ok (), n₂))
    (h : n₂.operate (.removeRecord target) = (.error fault, m)) :
    Fallible.runs World.hostAnswer (tearDown directory target) { w with node := n } =
      (.error fault, { w with node := m }) := by
  refine (runs_operate_ok (w := { w with node := n }) hunmount).trans ?_
  refine (runs_operate_ok (w := { w with node := n₁ }) hlogout).trans ?_
  exact runs_operate_error (w := { w with node := n₂ }) h

end

/-! ## One fault -/

section

variable {w : World} {directory name : String} {entry : MountEntry} {target : IscsiTarget}
  {fault : Host.Fault}

/-- A fault that comes before the mount is undone leaves everything to the next attempt. -/
theorem until_of_early_fault {w' : World} {m : Node} (h : m.Calm)
    (attempt : unmountOnce directory w' = (.error fault, { w with node := m }))
    (only : m.mounts.filter (MountTable.isAt directory) = [entry])
    (link : IscsiTarget.ofDevicePath entry.source = .ok target)
    (htarget : entry.target = directory) :
    ∃ w'', UntilUnmounted directory w' w'' ∧ w''.node.Clean directory target.iqn :=
  ⟨_, .again attempt (.done (unmountOnce_calm (w := { w with node := m }) h only link htarget)),
    clean_tornDown target only htarget⟩

/-- After a fault that comes when the mount is undone already, the next attempt has nothing to go by. -/
theorem until_of_late_fault {w' : World} {m : Node} (h : m.Calm)
    (attempt : unmountOnce directory w' = (.error fault, { w with node := m }))
    (hnone : MountTable.top? m.mounts directory = none) :
    UntilUnmounted directory w' { w with node := m.noted .mounts } :=
  .again attempt (.done (unmountOnce_of_none (operate_mounts h) hnone))

/-- A mount that was made under another spelling of the directory cannot be undone by `unmountOnce`. -/
theorem unmountOnce_misspelt (only : w.node.mounts.filter (MountTable.isAt directory) = [entry])
    (link : IscsiTarget.ofDevicePath entry.source = .ok target)
    (htarget : entry.target ≠ directory) :
    ∃ fault m, unmountOnce directory w = (.error fault, { w with node := m }) ∧
      m.mounts = w.node.mounts := by
  have unmounted := (MountTable.any_target only).trans (decide_eq_false htarget)
  rcases Node.operate_cases w.node .mounts with ⟨fault, hmounts⟩ | hmounts
  · exact ⟨fault, _, unmountOnce_of_mounts_error _ hmounts, rfl⟩
  have hsome := MountTable.top?_of_only only
  rcases Node.operate_cases (w.node.record .mounts).2 (.byPathLink entry.source) with
    ⟨fault, hlink⟩ | hlink
  · exact ⟨fault, _, unmountOnce_of_link_error hmounts hsome hlink, rfl⟩
  simp only [Node.respond, link] at hlink
  rw [unmountOnce_of_link hmounts hsome hlink link]
  rcases Node.operate_cases ((w.node.record .mounts).2.record (.byPathLink entry.source)).2
    (.unmount directory) with ⟨fault, hunmount⟩ | hunmount
  · exact ⟨fault, _, runs_tearDown_of_unmount_error hunmount, rfl⟩
  · have hrefused := hunmount.trans (if_neg (Bool.eq_false_iff.1 unmounted))
    exact ⟨_, _, runs_tearDown_of_unmount_error hrefused, rfl⟩

/-- The attempts of `UntilUnmounted` never come to an end where the mount was made under another spelling of
    the directory. -/
theorem not_until_of_misspelt (only : w.node.mounts.filter (MountTable.isAt directory) = [entry])
    (link : IscsiTarget.ofDevicePath entry.source = .ok target)
    (htarget : entry.target ≠ directory) (w' : World) : ¬UntilUnmounted directory w w' := by
  intro h
  induction h with
  | @done w _ _ attempt =>
    obtain ⟨_, _, hstuck, _⟩ := unmountOnce_misspelt only link htarget
    rw [attempt] at hstuck
    cases hstuck
  | @again w _ _ _ attempt _ ih =>
    obtain ⟨_, m, hstuck, hmounts⟩ := unmountOnce_misspelt only link htarget
    rw [attempt] at hstuck
    cases hstuck
    exact ih (hmounts ▸ only)

/-- Whether what is left behind after a fault at an operation was not there to begin with. -/
def Node.Forgiving (n : Node) (name iqn : String) : Prop :=
  (name = "logout" → n.sessions.contains iqn = false ∧ n.records.contains iqn = false) ∧
    (name = "remove_from_db" → n.records.contains iqn = false)

theorem exists_clean_iff {w' w'' : World} {iqn : String} (h : UntilUnmounted directory w' w'') :
    (∃ w, UntilUnmounted directory w' w ∧ w.node.Clean directory iqn) ↔
      w''.node.Clean directory iqn :=
  ⟨fun ⟨_, hw, hclean⟩ => h.unique hw ▸ hclean, fun hclean => ⟨w'', h, hclean⟩⟩

theorem clean_failNext {n : Node} {iqn : String} (name : String) (fault : Host.Fault)
    (h : n.Clean directory iqn) : (n.failNext name fault).Clean directory iqn :=
  h

variable (target) in
/-- What is left behind is `Node.Clean`, if the logout fails, just where there was no session and no
    record. -/
theorem clean_of_logout_fault {n : Node} (iqn : String)
    (only : n.mounts.filter (MountTable.isAt directory) = [entry])
    (htarget : entry.target = directory) :
    ((((n.found entry).unmounted directory).faulted (.logout target)).noted .mounts).Clean
        directory iqn ↔
      n.sessions.contains iqn = false ∧ n.records.contains iqn = false := by
  simp only [Node.Clean, Node.noted, Node.faulted, Node.unmounted, Node.found,
    MountTable.top?_removeLast only htarget, true_and]

variable (target) in
/-- What is left behind is `Node.Clean`, if the record cannot be removed, just where there was none. -/
theorem clean_of_removeRecord_fault {n : Node}
    (only : n.mounts.filter (MountTable.isAt directory) = [entry])
    (htarget : entry.target = directory) :
    (((((n.found entry).unmounted directory).loggedOut target).faulted
        (.removeRecord target)).noted .mounts).Clean directory target.iqn ↔
      n.records.contains target.iqn = false := by
  simp only [Node.Clean, Node.noted, Node.faulted, Node.unmounted, Node.loggedOut, Node.found,
    MountTable.top?_removeLast only htarget, Dictionary.contains_erase_self, true_and]

theorem forgiving_of_ne {n : Node} {iqn : String} (hlogout : name ≠ "logout")
    (hremove : name ≠ "remove_from_db") : n.Forgiving name iqn :=
  ⟨fun h => absurd h hlogout, fun h => absurd h hremove⟩

section Stages

variable (h : w.node.Calm) (only : w.node.mounts.filter (MountTable.isAt directory) = [entry])
  (link : IscsiTarget.ofDevicePath entry.source = .ok target)

include h only link

variable (name fault) in
/-- The attempt comes as far as `tearDown` if neither look at the host is the operation that fails. -/
theorem start_failing (hmounts : name ≠ "mounts") (hlink : name ≠ "by_path_link") :
    unmountOnce directory (w.failingHost name fault) =
      Fallible.runs World.hostAnswer (tearDown directory target)
        { w with node := (w.node.found entry).failNext name fault } := by
  have hmounts' := operate_beside (o := .mounts) name fault h (Ne.symm hmounts) nofun
    (operate_mounts h)
  have hlink' := operate_beside (o := .byPathLink entry.source) name fault (h.noted .mounts)
    (Ne.symm hlink) nofun (operate_byPathLink (h.noted .mounts) link)
  exact unmountOnce_of_link (w := w.failingHost name fault) hmounts'
    (MountTable.top?_of_only only) hlink' link

variable (htarget : entry.target = directory)

include htarget

theorem until_of_mounts_fault :
    ∃ w', UntilUnmounted directory (w.failingHost "mounts" fault) w' ∧
      w'.node.Clean directory target.iqn := by
  have attempt := unmountOnce_of_mounts_error (w := w.failingHost "mounts" fault) directory
    (Node.operate_failNext h .mounts fault)
  exact until_of_early_fault (h.faulted _) attempt only link htarget

theorem until_of_link_fault :
    ∃ w', UntilUnmounted directory (w.failingHost "by_path_link" fault) w' ∧
      w'.node.Clean directory target.iqn := by
  have hmounts := operate_beside (o := .mounts) "by_path_link" fault h (by decide) nofun
    (operate_mounts h)
  have attempt := unmountOnce_of_link_error (w := w.failingHost "by_path_link" fault) hmounts
    (MountTable.top?_of_only only)
    (Node.operate_failNext (h.noted _) (.byPathLink entry.source) fault)
  exact until_of_early_fault ((h.noted _).faulted _) attempt only link htarget

theorem until_of_unmount_fault :
    ∃ w', UntilUnmounted directory (w.failingHost "unmount" fault) w' ∧
      w'.node.Clean directory target.iqn := by
  have attempt := (start_failing "unmount" fault h only link (by decide) (by decide)).trans
    (runs_tearDown_of_unmount_error
      (Node.operate_failNext (h.found entry) (.unmount directory) fault))
  exact until_of_early_fault ((h.found entry).faulted _) attempt only link htarget

variable (name fault) in
omit link in
/-- The mount is undone if that is not the operation that fails. -/
theorem unmount_failing (hunmount : name ≠ "unmount") :
    ((w.node.found entry).failNext name fault).operate (.unmount directory) =
      (.ok (), ((w.node.found entry).unmounted directory).failNext name fault) := by
  have mounted := (MountTable.any_target only).trans (decide_eq_true htarget)
  exact operate_beside (o := .unmount directory) name fault (h.found entry) (Ne.symm hunmount) nofun
    (operate_unmount (h.found entry) mounted)

theorem until_of_logout_fault :
    (∃ w', UntilUnmounted directory (w.failingHost "logout" fault) w' ∧
      w'.node.Clean directory target.iqn) ↔ w.node.Forgiving "logout" target.iqn := by
  have hunmounted := (h.found entry).unmounted directory
  have attempt := (start_failing "logout" fault h only link (by decide) (by decide)).trans
    (runs_tearDown_of_logout_error (unmount_failing "logout" fault h only htarget (by decide))
      (Node.operate_failNext hunmounted (.logout target) fault))
  have huntil := until_of_late_fault (hunmounted.faulted _) attempt
    (MountTable.top?_removeLast only htarget)
  refine (exists_clean_iff huntil).trans ?_
  refine (clean_of_logout_fault target target.iqn only htarget).trans ⟨fun hleft => ?_, fun h => ?_⟩
  · exact ⟨fun _ => hleft, fun h => absurd h (by decide)⟩
  · exact h.1 rfl

variable (name fault) in
omit only link htarget in
/-- The attempt comes as far as the record if nothing before that fails. -/
theorem logout_failing (hlogout : name ≠ "logout") :
    (((w.node.found entry).unmounted directory).failNext name fault).operate (.logout target) =
      (.ok (), (((w.node.found entry).unmounted directory).loggedOut target).failNext name fault) :=
  operate_beside (o := .logout target) name fault ((h.found entry).unmounted directory)
    (Ne.symm hlogout) nofun (operate_logout target ((h.found entry).unmounted directory))

theorem until_of_removeRecord_fault :
    (∃ w', UntilUnmounted directory (w.failingHost "remove_from_db" fault) w' ∧
      w'.node.Clean directory target.iqn) ↔ w.node.Forgiving "remove_from_db" target.iqn := by
  have hparted := ((h.found entry).unmounted directory).loggedOut target
  have attempt := (start_failing "remove_from_db" fault h only link (by decide) (by decide)).trans
    (runs_tearDown_of_removeRecord_error
      (unmount_failing "remove_from_db" fault h only htarget (by decide))
      (logout_failing "remove_from_db" fault h (by decide))
      (Node.operate_failNext hparted (.removeRecord target) fault))
  have huntil := until_of_late_fault (hparted.faulted _) attempt
    (MountTable.top?_removeLast only htarget)
  refine (exists_clean_iff huntil).trans ?_
  refine (clean_of_removeRecord_fault target only htarget).trans ⟨fun hleft => ?_, fun h => ?_⟩
  · exact ⟨fun h => absurd h (by decide), fun _ => hleft⟩
  · exact h.2 rfl

/-- A fault of an operation that `unmountOnce` does not perform does no harm. -/
theorem until_of_other_fault (hmounts : name ≠ "mounts") (hlink : name ≠ "by_path_link")
    (hunmount : name ≠ "unmount") (hlogout : name ≠ "logout") (hremove : name ≠ "remove_from_db") :
    ∃ w', UntilUnmounted directory (w.failingHost name fault) w' ∧
      w'.node.Clean directory target.iqn := by
  have hparted := ((h.found entry).unmounted directory).loggedOut target
  have hremoved := operate_beside (o := .removeRecord target) name fault hparted (Ne.symm hremove) nofun
    (operate_removeRecord target hparted)
  have attempt := (start_failing name fault h only link hmounts hlink).trans
    (runs_tearDown (unmount_failing name fault h only htarget hunmount)
      (logout_failing name fault h hlogout) hremoved)
  exact ⟨_, .done attempt, clean_failNext name fault (clean_tornDown target only htarget)⟩

theorem until_failing (name : String) (fault : Host.Fault) :
    (∃ w', UntilUnmounted directory (w.failingHost name fault) w' ∧
      w'.node.Clean directory target.iqn) ↔ w.node.Forgiving name target.iqn := by
  by_cases hmounts : name = "mounts"
  · subst hmounts
    exact iff_of_true (until_of_mounts_fault h only link htarget)
      (forgiving_of_ne (by decide) (by decide))
  by_cases hlink : name = "by_path_link"
  · subst hlink
    exact iff_of_true (until_of_link_fault h only link htarget)
      (forgiving_of_ne (by decide) (by decide))
  by_cases hunmount : name = "unmount"
  · subst hunmount
    exact iff_of_true (until_of_unmount_fault h only link htarget)
      (forgiving_of_ne (by decide) (by decide))
  -- From here on the mount is undone when the fault comes.
  by_cases hlogout : name = "logout"
  · subst hlogout
    exact until_of_logout_fault h only link htarget
  by_cases hremove : name = "remove_from_db"
  · subst hremove
    exact until_of_removeRecord_fault h only link htarget
  exact iff_of_true (until_of_other_fault h only link htarget hmounts hlink hunmount hlogout hremove)
    (forgiving_of_ne hlogout hremove)

end Stages

/-- **When unmounting again is enough.** Let one mount be at a directory, of a device that spells its
    target, and let one fault come in the way of unmounting it. The attempts up to the first that does not
    fail (`UntilUnmounted`) undo the mount and leave neither a session nor a record of the target
    (`Node.Clean`) exactly if the mount was made under the same spelling of the directory, and the host is
    `Node.Forgiving`: where the fault hits the logout, there was neither to begin with, or, where it hits
    the removal of the record, there was no record. One attempt without a fault undoes it all. -/
theorem unmount_converges_iff (h : w.node.Calm)
    (only : w.node.mounts.filter (MountTable.isAt directory) = [entry])
    (link : IscsiTarget.ofDevicePath entry.source = .ok target) (name : String)
    (fault : Host.Fault) :
    (entry.target = directory →
      ∃ w', unmountOnce directory w = (.ok .unmounted, w') ∧
        w'.node.Clean directory target.iqn) ∧
    ((∃ w', UntilUnmounted directory (w.failingHost name fault) w' ∧
        w'.node.Clean directory target.iqn) ↔
      entry.target = directory ∧ w.node.Forgiving name target.iqn) := by
  constructor
  · intro htarget
    exact ⟨_, unmountOnce_calm h only link htarget, clean_tornDown target only htarget⟩
  · by_cases htarget : entry.target = directory
    · rw [until_failing h only link htarget, eq_true htarget, true_and]
    · have hnever := not_until_of_misspelt (w := w.failingHost name fault) only link htarget
      exact iff_of_false (fun ⟨w', hw, _⟩ => hnever w' hw) fun h => htarget h.1

end

/-- A target with the address `10.0.0.2`. -/
def sampleTarget : IscsiTarget :=
  ⟨⟨10, 0, 0, 2⟩, 3260, "iqn.2015-12.com.oracleiaas:a", IscsiTarget.defaultLun⟩

/-- A volume of that target mounted at `/mnt/a`. -/
def sampleMount : MountEntry :=
  ⟨"/dev/disk/by-path/ip-10.0.0.2:3260-iscsi-iqn.2015-12.com.oracleiaas:a-lun-1", "/mnt/a", "ext4"⟩

/-- A host with `sampleMount` and what the initiator needs for it. -/
def mountedWorld : World where
  node := {
    directories := .ofList [("/mnt/a", ())]
    records := .ofList [(sampleTarget.iqn, ())]
    automaticLogins := .ofList [(sampleTarget.iqn, ())]
    sessions := .ofList [(sampleTarget.iqn, ())]
    devices := .ofList [(sampleMount.source, ())]
    mounts := [sampleMount] }

/-- The fault of a program that did not get an answer in time. -/
def timedOut (program : String) : Host.Fault :=
  .command program (some 8) "timed out"

theorem mountedWorld_only :
    mountedWorld.node.mounts.filter (MountTable.isAt "/mnt/a") = [sampleMount] := by
  decide

theorem mountedWorld_link : IscsiTarget.ofDevicePath sampleMount.source = .ok sampleTarget := by
  rfl

/-- In `mountedWorld`, a fault of the unmount itself is made up for. -/
theorem unmount_converges_mountedWorld :
    mountedWorld.node.Calm ∧
    mountedWorld.node.mounts.filter (MountTable.isAt "/mnt/a") = [sampleMount] ∧
    IscsiTarget.ofDevicePath sampleMount.source = .ok sampleTarget ∧
    (∃ w', unmountOnce "/mnt/a" mountedWorld = (.ok .unmounted, w') ∧
      w'.node.Clean "/mnt/a" sampleTarget.iqn) ∧
    ∃ w', UntilUnmounted "/mnt/a" (mountedWorld.failingHost "unmount" (timedOut "umount")) w' ∧
      w'.node.Clean "/mnt/a" sampleTarget.iqn := by
  have h := unmount_converges_iff (w := mountedWorld) (by decide) mountedWorld_only
    mountedWorld_link "unmount" (timedOut "umount")
  refine ⟨by decide, mountedWorld_only, mountedWorld_link, h.1 rfl, h.2.2 ⟨rfl, ?_, ?_⟩⟩
  · exact fun h => absurd h (by decide)
  · exact fun h => absurd h (by decide)

/-- In `mountedWorld`, a fault of the logout is not made up for: the session and the record stay, for the
    mount that told of them is gone. -/
theorem unmount_leaves_session :
    mountedWorld.node.Calm ∧
    mountedWorld.node.mounts.filter (MountTable.isAt "/mnt/a") = [sampleMount] ∧
    IscsiTarget.ofDevicePath sampleMount.source = .ok sampleTarget ∧
    (∃ w', UntilUnmounted "/mnt/a" (mountedWorld.failingHost "logout" (timedOut "iscsiadm")) w') ∧
    ¬∃ w', UntilUnmounted "/mnt/a" (mountedWorld.failingHost "logout" (timedOut "iscsiadm")) w' ∧
      w'.node.Clean "/mnt/a" sampleTarget.iqn := by
  refine ⟨by decide, mountedWorld_only, mountedWorld_link, ?_, ?_⟩
  · exact ⟨_, .again rfl (.done rfl)⟩
  · rw [until_failing (by decide) mountedWorld_only mountedWorld_link rfl]
    exact fun hforgiving => absurd (hforgiving.1 rfl) (by decide)

end InMemory

end VolumeDriver
