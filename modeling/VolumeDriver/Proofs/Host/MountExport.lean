import VolumeDriver.Proofs.Host.ExportAddress
import VolumeDriver.Proofs.Host.Mount
import VolumeDriver.Proofs.InMemory.Impending
import VolumeDriver.Proofs.InMemory.Sides
set_option autoImplicit false

/-! # Mounts of exports, and mounts of them again

Where nothing is made to fail, a mount of an export depends on what is on top at its directory
(`mountOutcome`): the export itself is left alone, anything else is in the way, and where there is nothing
the export is mounted on top of the table. So the export is on top after each mount that succeeds, and is
found there by the next one, whichever slashes its directory is written with. -/

namespace VolumeDriver

/-! ## Slashes at the end of a directory -/

namespace MountTable

variable {table : List MountEntry} {path path' : String}

/-- So many slashes. -/
def slashes (n : Nat) : String :=
  .ofList (.replicate n '/')

/-- Two directories that differ in the `slashes` at their ends only. -/
def SameDirectory (path path' : String) : Prop :=
  ∃ m n, path ++ slashes m = path' ++ slashes n

theorem directory_append_slashes (path : String) (n : Nat) :
    directory (path ++ slashes n) = directory path := by
  have hslashes : ∀ c ∈ List.replicate n '/', decide (c = '/') = true := by
    intro c hc
    exact decide_eq_true (List.eq_of_mem_replicate hc)
  unfold directory Cut.dropEnd slashes
  rw [String.toList_append, String.toList_ofList, List.reverse_append, List.reverse_replicate,
    List.dropWhile_append_of_pos hslashes]

theorem SameDirectory.directory_eq (h : SameDirectory path path') :
    directory path = directory path' := by
  obtain ⟨m, n, h⟩ := h
  rw [← directory_append_slashes path m, h, directory_append_slashes]

/-- What is on top at a directory does not depend on the `slashes` at its end. -/
theorem SameDirectory.top? (h : SameDirectory path path') (table : List MountEntry) :
    top? table path = top? table path' := by
  unfold MountTable.top?
  rw [h.directory_eq]

end MountTable

namespace InMemory

open Host

variable {w w' : World} {directory directory' device address : String} {options options' : List String}
  {entry : MountEntry}

/-! ## One mount -/

/-- How a mount of a source ends, by what is on top at its directory and whether there is such a
    directory. -/
def mountOutcome (directory source : String) (known : Bool) :
    Option MountEntry → Except Host.Fault MountOutcome
  | some entry =>
    if entry.source = source then .ok .alreadyMounted
    else .error (.foreignMount directory entry.source source)
  | none =>
    if known then .ok .mounted
    else .error (.command "mount" (some 32) ("mount point " ++ directory ++ " does not exist"))

section

variable {source : String} {known : Bool} {top : Option MountEntry}

theorem mountOutcome_alreadyMounted_iff :
    mountOutcome directory source known top = .ok .alreadyMounted ↔
      ∃ entry, top = some entry ∧ entry.source = source := by
  cases top with
  | none => cases known <;> simp [mountOutcome]
  | some entry => by_cases hsource : entry.source = source <;> simp [mountOutcome, hsource]

theorem mountOutcome_mounted_iff :
    mountOutcome directory source known top = .ok .mounted ↔ top = none ∧ known = true := by
  cases top with
  | none => cases known <;> simp [mountOutcome]
  | some entry => by_cases hsource : entry.source = source <;> simp [mountOutcome, hsource]

theorem mountOutcome_foreignMount_iff {target existing expected : String} :
    mountOutcome directory source known top = .error (.foreignMount target existing expected) ↔
      target = directory ∧ expected = source ∧
        ∃ entry, top = some entry ∧ entry.source = existing ∧ existing ≠ expected := by
  cases top with
  | none => cases known <;> simp [mountOutcome]
  | some entry =>
    by_cases hsource : entry.source = source
    · subst hsource
      simp only [mountOutcome, if_pos, reduceCtorEq, false_iff]
      rintro ⟨-, rfl, e, he, rfl, hne⟩
      cases he
      exact hne rfl
    · simp only [mountOutcome, if_neg hsource, Except.error.injEq, Fault.foreignMount.injEq]
      constructor
      · rintro ⟨rfl, rfl, rfl⟩
        exact ⟨rfl, rfl, entry, rfl, rfl, hsource⟩
      · rintro ⟨rfl, rfl, e, he, rfl, -⟩
        cases he
        exact ⟨rfl, rfl, rfl⟩

end

/-- The host after a mount that ends so. -/
def Node.afterMount (n : Node) (source directory : String) :
    Except Host.Fault MountOutcome → Node
  | .ok .mounted => n.mounting source directory nfsType
  | _ => n

/-- The part of `mountExport` in which it is known what is on top. -/
def mountOver (directory source : String) (options : List String) :
    Option MountEntry → Host.Run MountOutcome
  | some entry =>
    if entry.source = source then return .alreadyMounted
    else throw (.foreignMount directory entry.source source)
  | none => do
    operate (.mount source directory nfsType options)
    return .mounted

theorem runs_mountExport_eq (h : w.node.Calm) (haddress : exportAddress device = .ok address)
    (directory : String) (options : List String) :
    Fallible.runs World.hostAnswer (mountExport directory device options) w =
      Fallible.runs World.hostAnswer (mountOver directory (address ++ ":" ++ device) options
        (MountTable.top? w.node.mounts directory)) { w with node := w.node.noted .mounts } := by
  refine (Fallible.runs_bind_ok (by rw [Fallible.runs_ofExcept, haddress])).trans ?_
  refine (Fallible.runs_bind_ok (runs_mountAt h directory)).trans ?_
  cases MountTable.top? w.node.mounts directory <;> rfl

theorem runs_mountOver (h : w.node.Calm) (directory source : String) (options : List String)
    (top : Option MountEntry) :
    (Fallible.runs World.hostAnswer (mountOver directory source options top) w).1 =
        mountOutcome directory source (w.node.directories.contains directory) top ∧
      (Fallible.runs World.hostAnswer (mountOver directory source options top) w).2.node.bare =
        w.node.bare.afterMount source directory
          (mountOutcome directory source (w.node.directories.contains directory) top) := by
  cases top with
  | some entry =>
    unfold mountOver mountOutcome
    by_cases hsource : entry.source = source
    · simp only [if_pos hsource]
      exact ⟨rfl, rfl⟩
    · simp only [if_neg hsource]
      exact ⟨rfl, rfl⟩
  | none =>
    have hmount := Node.operate_calm h (.mount source directory nfsType options)
    by_cases known : w.node.directories.contains directory = true
    · have hrun : Fallible.runs World.hostAnswer (mountOver directory source options none) w =
          Fallible.runs World.hostAnswer (pure .mounted) _ :=
        runs_operate_ok (hmount.trans (if_pos known))
      rw [hrun, mountOutcome, if_pos known]
      exact ⟨rfl, rfl⟩
    · have hrun : Fallible.runs World.hostAnswer (mountOver directory source options none) w =
          (.error _, _) :=
        runs_operate_error (hmount.trans (if_neg known))
      rw [hrun, mountOutcome, if_neg known]
      exact ⟨rfl, rfl⟩

/-- How a `mountExport` ends where nothing is made to fail: as `mountOutcome` says. -/
theorem runs_mountExport (h : w.node.Calm) (haddress : exportAddress device = .ok address)
    (directory : String) (options : List String) :
    (Fallible.runs World.hostAnswer (mountExport directory device options) w).1 =
        mountOutcome directory (address ++ ":" ++ device)
          (w.node.directories.contains directory) (MountTable.top? w.node.mounts directory) ∧
      (Fallible.runs World.hostAnswer (mountExport directory device options) w).2.node.bare =
        w.node.bare.afterMount (address ++ ":" ++ device) directory
          (mountOutcome directory (address ++ ":" ++ device)
            (w.node.directories.contains directory)
            (MountTable.top? w.node.mounts directory)) := by
  rw [runs_mountExport_eq h haddress]
  exact runs_mountOver (w := { w with node := w.node.noted .mounts }) (h.noted .mounts) ..

/-! ## Sources -/

/-- The source that the path `device` is mounted from as an export. -/
def IsSourceOf (device source : String) : Prop :=
  ∃ address, exportAddress device = .ok address ∧ source = address ++ ":" ++ device

theorem isSourceOf_iff (haddress : exportAddress device = .ok address) {source : String} :
    IsSourceOf device source ↔ source = address ++ ":" ++ device := by
  unfold IsSourceOf
  simp [haddress]

theorem not_isSourceOf {fault : Host.Fault} (hrefused : exportAddress device = .error fault)
    (source : String) : ¬IsSourceOf device source := by
  unfold IsSourceOf
  simp [hrefused]

/-- What a `mountExport` comes to, by what was on top at its directory. -/
structure MountsFaithfully (w : World) (directory device : String)
    (run : Except Host.Fault MountOutcome × World) : Prop where
  onTop : ∀ outcome, run.1 = .ok outcome → ∃ entry,
    MountTable.top? run.2.node.mounts directory = some entry ∧ IsSourceOf device entry.source
  alreadyMounted : run.1 = .ok .alreadyMounted ↔ ∃ entry,
    MountTable.top? w.node.mounts directory = some entry ∧ IsSourceOf device entry.source
  unchanged : run.1 = .ok .alreadyMounted → run.2.node.bare = w.node.bare
  mounted : run.1 = .ok .mounted ↔ (∃ source, IsSourceOf device source) ∧
    MountTable.top? w.node.mounts directory = none ∧
    w.node.directories.contains directory = true
  extended : run.1 = .ok .mounted → ∃ source, IsSourceOf device source ∧
    run.2.node.bare = { w.node.bare with
      mounts := w.node.mounts ++ [⟨source, directory, "nfs"⟩] }
  foreign : ∀ target existing expected,
    run.1 = .error (.foreignMount target existing expected) ↔
      target = directory ∧ IsSourceOf device expected ∧ ∃ entry,
        MountTable.top? w.node.mounts directory = some entry ∧ entry.source = existing ∧
          existing ≠ expected

theorem mountsFaithfully_refused {fault : Host.Fault} (w : World) (directory : String)
    (hfault : ∀ target existing expected, fault ≠ .foreignMount target existing expected)
    (hnone : ∀ source, ¬IsSourceOf device source) :
    MountsFaithfully w directory device (.error fault, w) where
  onTop := nofun
  alreadyMounted := iff_of_false nofun (by simp [hnone])
  unchanged := nofun
  mounted := iff_of_false nofun (by simp [hnone])
  extended := nofun
  foreign target existing expected := by
    refine iff_of_false ?_ (by simp [hnone])
    rintro ⟨⟩
    exact hfault target existing expected rfl

theorem mountsFaithfully_mountExport (h : w.node.Calm) (directory device : String)
    (options : List String) :
    MountsFaithfully w directory device
      (Fallible.runs World.hostAnswer (mountExport directory device options) w) := by
  cases haddress : exportAddress device with
  | error fault =>
    have hnone : ∀ address, exportAddress device ≠ .ok address := by
      simp [haddress]
    have hrefused := exportAddress_refused hnone
    rw [mountExport_refused hrefused]
    exact mountsFaithfully_refused w directory nofun (not_isSourceOf hrefused)
  | ok address =>
    obtain ⟨hresult, hbare⟩ := runs_mountExport h haddress directory options
    rw [← hresult] at hbare
    generalize hrun :
      Fallible.runs World.hostAnswer (mountExport directory device options) w = run at *
    have hsource := (isSourceOf_iff haddress).2 rfl
    have hunchanged : run.1 = .ok .alreadyMounted → run.2.node.bare = w.node.bare := by
      intro hok
      rw [hbare, hok]
      rfl
    have hextended : run.1 = .ok .mounted → run.2.node.bare = { w.node.bare with
        mounts := w.node.mounts ++ [⟨address ++ ":" ++ device, directory, "nfs"⟩] } := by
      intro hok
      rw [hbare, hok]
      rfl
    refine ⟨?_, ?_, hunchanged, ?_, fun hok => ⟨_, hsource, hextended hok⟩, ?_⟩
    · -- What is on top was there before, or it is the mount that was made last.
      intro outcome hok
      cases outcome with
      | alreadyMounted =>
        have hmounts : run.2.node.mounts = w.node.mounts :=
          (congrArg Node.mounts (hunchanged hok) :)
        rw [hresult, mountOutcome_alreadyMounted_iff] at hok
        obtain ⟨entry, htop, hentry⟩ := hok
        rw [hmounts]
        exact ⟨entry, htop, (isSourceOf_iff haddress).2 hentry⟩
      | mounted =>
        have hmounts := congrArg Node.mounts (hextended hok)
        refine ⟨⟨address ++ ":" ++ device, directory, "nfs"⟩, ?_, hsource⟩
        show MountTable.top? run.2.node.bare.mounts directory = _
        rw [hmounts]
        exact MountTable.top?_concat _ rfl
    · rw [hresult, mountOutcome_alreadyMounted_iff]
      simp only [isSourceOf_iff haddress]
    · rw [hresult, mountOutcome_mounted_iff]
      simp only [isSourceOf_iff haddress, exists_eq, true_and]
    · intro target existing expected
      rw [hresult, mountOutcome_foreignMount_iff]
      simp only [isSourceOf_iff haddress]

/-! ## Mounting again -/

/-- Mounts an export again and again, each time at a directory and with options of its own. -/
def mountExports (device : String) :
    List (String × List String) → World → List (Except Host.Fault MountOutcome) × World
  | [], w => ([], w)
  | (directory, options) :: again, w =>
    let run := Fallible.runs World.hostAnswer (mountExport directory device options) w
    let runs := mountExports device again run.2
    (run.1 :: runs.1, runs.2)

/-- An export that is on top at a directory is left alone by `mountExport`. -/
theorem mountExport_left (h : w.node.Calm)
    (htop : MountTable.top? w.node.mounts directory = some entry)
    (hsource : IsSourceOf device entry.source)
    (hsame : MountTable.SameDirectory directory' directory) (options : List String) :
    ∃ w', Fallible.runs World.hostAnswer (mountExport directory' device options) w =
        (.ok .alreadyMounted, w') ∧ w'.node.Calm ∧ w'.node.bare = w.node.bare := by
  have hfaithful := mountsFaithfully_mountExport h directory' device options
  have hok := hfaithful.alreadyMounted.2 ⟨entry, (hsame.top? _).trans htop, hsource⟩
  have hrun : Fallible.runs World.hostAnswer (mountExport directory' device options) w =
      (.ok .alreadyMounted, _) := Prod.ext hok rfl
  exact ⟨_, hrun, calm_of_runs h hrun, hfaithful.unchanged hok⟩

theorem mountExports_left {again : List (String × List String)} (h : w.node.Calm)
    (htop : MountTable.top? w.node.mounts directory = some entry)
    (hsource : IsSourceOf device entry.source)
    (hsame : ∀ call ∈ again, MountTable.SameDirectory call.1 directory) :
    (mountExports device again w).1 = again.map (fun _ => .ok .alreadyMounted) ∧
      (mountExports device again w).2.node.bare = w.node.bare := by
  -- The table is the same after each call, so what was on top stays there.
  induction again generalizing w with
  | nil => exact ⟨rfl, rfl⟩
  | cons call again ih =>
    obtain ⟨hfirst, hrest⟩ := List.forall_mem_cons.1 hsame
    obtain ⟨w', hrun, hcalm, hbare⟩ := mountExport_left h htop hsource hfirst call.2
    have hmounts : w'.node.mounts = w.node.mounts := (congrArg Node.mounts hbare :)
    obtain ⟨hresults, hlast⟩ := ih hcalm (by rw [hmounts, htop]) hrest
    simp only [mountExports, hrun, hresults, hlast, hbare, List.map_cons, and_self]

/-- **A mount of an export is faithful, and made once.** It `MountsFaithfully`, and when it has succeeded,
    all `mountExports` at that directory leave the host alone. -/
theorem mountExport_faithful (h : w.node.Calm) (directory device : String)
    (options : List String) :
    MountsFaithfully w directory device
        (Fallible.runs World.hostAnswer (mountExport directory device options) w) ∧
      ∀ outcome w', Fallible.runs World.hostAnswer (mountExport directory device options) w =
          (.ok outcome, w') →
        ∀ again : List (String × List String),
          (∀ call ∈ again, MountTable.SameDirectory call.1 directory) →
          (mountExports device again w').1 = again.map (fun _ => .ok .alreadyMounted) ∧
            (mountExports device again w').2.node.bare = w'.node.bare := by
  have hfaithful := mountsFaithfully_mountExport h directory device options
  refine ⟨hfaithful, ?_⟩
  intro outcome w' hrun again hsame
  obtain ⟨entry, htop, hsource⟩ := hfaithful.onTop outcome (congrArg Prod.fst hrun)
  rw [hrun] at htop
  exact mountExports_left (calm_of_runs h hrun) htop hsource hsame

/-- In `emptyWorld` an export is mounted once, however often it is asked for and however its directory is
    written. -/
theorem mountExport_faithful_emptyWorld :
    ∃ w', Fallible.runs World.hostAnswer (mountExport "/mnt/a" "/mnt/10.0.0.8/fs" []) emptyWorld =
        (.ok .mounted, w') ∧
      (∃ entry, MountTable.top? w'.node.mounts "/mnt/a" = some entry ∧
        IsSourceOf "/mnt/10.0.0.8/fs" entry.source) ∧
      (mountExports "/mnt/10.0.0.8/fs" [("/mnt/a//", []), ("/mnt/a", ["ro"])] w').1 =
        [.ok .alreadyMounted, .ok .alreadyMounted] ∧
      (mountExports "/mnt/10.0.0.8/fs" [("/mnt/a//", []), ("/mnt/a", ["ro"])] w').2.node.bare =
        w'.node.bare := by
  have calm : emptyWorld.node.Calm := by decide
  obtain ⟨w', hrun⟩ : ∃ w', Fallible.runs World.hostAnswer
      (mountExport "/mnt/a" "/mnt/10.0.0.8/fs" []) emptyWorld = (.ok .mounted, w') :=
    ⟨_, Fallible.runs_of_toOption (by decide +kernel)⟩
  have hsame : ∀ call ∈ [("/mnt/a//", []), ("/mnt/a", ["ro"])],
      MountTable.SameDirectory call.1 "/mnt/a" := by
    intro call hcall
    rcases List.mem_cons.1 hcall with rfl | hcall
    · exact ⟨0, 2, rfl⟩
    · obtain rfl := List.mem_singleton.1 hcall
      exact ⟨0, 0, rfl⟩
  obtain ⟨hfaithful, hagain⟩ := mountExport_faithful calm "/mnt/a" "/mnt/10.0.0.8/fs" []
  have hontop := hfaithful.onTop .mounted (congrArg Prod.fst hrun)
  rw [hrun] at hontop
  exact ⟨w', hrun, hontop, hagain _ w' hrun _ hsame⟩

end InMemory

end VolumeDriver
