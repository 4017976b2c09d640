import VolumeDriver.Files.Tree
set_option autoImplicit false

/-! # Files that are opened, written and opened again

A path that leads to a file, or to where one can be made (`Tree.locate`), goes on leading there when a file
is put there (`Tree.put`): on its way it steps from directories only. So a file that can be opened
(`Tree.openOrCreate`) can be written, and then holds what was written. -/

namespace VolumeDriver.Files.Tree

variable {t t' : Tree} {location : Location} {path : String} {content : List UInt8}

theorem lookup_append_of_ne {l : List (Location × Entry)} {key other : Location} {entry : Entry}
    (h : other ≠ key) : (l ++ [(key, entry)]).lookup other = l.lookup other := by
  induction l with
  | nil => simp [List.lookup_cons, beq_false_of_ne h]
  | cons e l ih =>
    obtain ⟨k, v⟩ := e
    simp only [List.cons_append, List.lookup_cons, ih]

theorem lookup_filter_of_ne {l : List (Location × Entry)} {key other : Location}
    (h : other ≠ key) : (l.filter fun e => e.1 ≠ key).lookup other = l.lookup other := by
  induction l with
  | nil => rfl
  | cons e l ih =>
    obtain ⟨k, v⟩ := e
    by_cases hk : k = key
    · subst hk
      simpa [List.filter_cons, List.lookup_cons, beq_false_of_ne h] using ih
    · rw [List.filter_cons_of_pos (by simpa using hk), List.lookup_cons, List.lookup_cons, ih]

theorem lookup_put_self {l : List (Location × Entry)} {key : Location} {entry : Entry} :
    ((l.filter fun e => e.1 ≠ key) ++ [(key, entry)]).lookup key = some entry := by
  induction l with
  | nil => simp
  | cons e l ih =>
    obtain ⟨k, v⟩ := e
    by_cases hk : k = key
    · simpa [List.filter_cons, hk] using ih
    · simpa [List.filter_cons, hk, List.lookup_cons, beq_false_of_ne (Ne.symm hk)] using ih

theorem entryAt?_put_ne {other : Location} (h : other ≠ location) (entry : Entry) :
    (t.put location entry).entryAt? other = t.entryAt? other := by
  cases other with
  | nil => rfl
  | cons name names => exact (lookup_append_of_ne h).trans (lookup_filter_of_ne h)

theorem entryAt?_put_self (h : location ≠ []) (entry : Entry) :
    (t.put location entry).entryAt? location = some entry := by
  cases location with
  | nil => exact absurd rfl h
  | cons name names => exact lookup_put_self

/-- Steps are taken from directories, so a `step` that can be taken does not mind what is `put` at a place
    where no directory is. -/
theorem step_put {here there : Location} {name : String} {entry : Entry}
    (h : t.step here name = .ok there) (hplace : t.entryAt? location ≠ some .directory) :
    (t.put location entry).step here name = .ok there := by
  have hhere : t.entryAt? here = some .directory := by
    rw [step] at h
    split at h
    · cases h
    · cases h
    · assumption
  have hne : here ≠ location := fun heq => hplace (heq ▸ hhere)
  rw [step, entryAt?_put_ne hne]
  rw [step] at h
  exact h

theorem foldlM_step_put {names : List String} {here there : Location} {entry : Entry}
    (h : names.foldlM t.step here = .ok there) (hplace : t.entryAt? location ≠ some .directory) :
    names.foldlM (t.put location entry).step here = .ok there := by
  induction names generalizing here with
  | nil => exact h
  | cons name names ih =>
    rw [List.foldlM_cons] at h ⊢
    cases hstep : t.step here name with
    | error fault =>
      rw [hstep] at h
      cases h
    | ok next =>
      rw [hstep] at h
      rw [step_put hstep hplace]
      exact ih h

theorem locate_put {there : Location} {entry : Entry} (h : t.locate path = .ok there)
    (hplace : t.entryAt? location ≠ some .directory) :
    (t.put location entry).locate path = .ok there := by
  rw [locate, follow] at h ⊢
  split at h
  · cases h
  · rename_i hzero
    rw [if_neg hzero]
    split at h
    · cases h
    · rename_i hempty
      rw [if_neg hempty]
      split at h
      · cases h
      · rename_i hlong
        rw [if_neg hlong]
        exact foldlM_step_put h hplace

/-! ## Opening -/

/-- Where a path leads that `openOrCreate` can open, and what is there. -/
theorem openOrCreate_cases (h : t.openOrCreate path = .ok (content, t')) :
    aboveSlashed? path = none ∧ ∃ location, t.locate path = .ok location ∧
      (t.entryAt? location = some (.file content) ∧ t' = t ∨
        t.entryAt? location = none ∧ content = [] ∧ t' = t.put location (.file [])) := by
  rw [openOrCreate] at h
  split at h
  · rename_i above _
    cases hf : t.follow path (above ++ [[]]) <;> rw [hf] at h <;> cases h
  · rename_i hplain
    refine ⟨hplain, ?_⟩
    cases hl : t.locate path with
    | error fault =>
      rw [hl] at h
      cases h
    | ok location =>
      simp only [hl, bind, Except.bind] at h
      refine ⟨location, rfl, ?_⟩
      -- A file is opened as it is; where there is nothing, an empty one is made.
      split at h
      · rename_i entry he
        cases entry with
        | directory => cases h
        | file found =>
          cases h
          exact .inl ⟨he, rfl⟩
      · rename_i he
        split at h
        · cases h
          exact .inr ⟨he, rfl, rfl⟩
        · cases h
        · cases h

theorem openOrCreate_put (hplain : aboveSlashed? path = none) (h : t.locate path = .ok location)
    (hplace : t.entryAt? location ≠ some .directory) :
    (t.put location (.file content)).openOrCreate path =
      .ok (content, t.put location (.file content)) := by
  have hroot : location ≠ [] := by
    rintro rfl
    exact hplace rfl
  rw [openOrCreate, hplain]
  simp only [locate_put h hplace, entryAt?_put_self hroot, bind, Except.bind]
  rfl

/-- A path that `openOrCreate` can open leads to a place where there is a file then. -/
theorem place_of_openOrCreate (h : t.openOrCreate path = .ok (content, t')) :
    aboveSlashed? path = none ∧ ∃ location, t'.locate path = .ok location ∧
      t'.entryAt? location = some (.file content) := by
  obtain ⟨hplain, location, hl, ⟨he, rfl⟩ | ⟨he, rfl, rfl⟩⟩ := openOrCreate_cases h
  · exact ⟨hplain, location, hl, he⟩
  · have hplace : t.entryAt? location ≠ some .directory := by
      rw [he]
      nofun
    have hroot : location ≠ [] := by
      rintro rfl
      exact hplace rfl
    exact ⟨hplain, location, locate_put hl hplace, entryAt?_put_self hroot _⟩

/-- A file that was opened by `openOrCreate` is opened again as it is. -/
theorem openOrCreate_again (h : t.openOrCreate path = .ok (content, t')) :
    t'.openOrCreate path = .ok (content, t') := by
  obtain ⟨hplain, location, hl, he⟩ := place_of_openOrCreate h
  rw [openOrCreate, hplain]
  simp only [hl, he, bind, Except.bind]
  rfl

theorem read_of_entryAt? (hl : t.locate path = .ok location)
    (he : t.entryAt? location = some (.file content)) : t.read path = .ok content := by
  unfold read find present
  simp only [hl, he, bind, Except.bind]
  rfl

/-- What `openOrCreate` has opened can be read then. -/
theorem read_opened (h : t.openOrCreate path = .ok (content, t')) : t'.read path = .ok content := by
  obtain ⟨-, location, hl, he⟩ := place_of_openOrCreate h
  exact read_of_entryAt? hl he

/-- A file that `openOrCreate` can open was there before, or was made and is empty. -/
theorem read_before_opened (h : t.openOrCreate path = .ok (content, t')) :
    t.read path = .ok content ∧ t' = t ∨ t.read path = .error .notFound ∧ content = [] := by
  obtain ⟨-, location, hl, ⟨he, rfl⟩ | ⟨he, rfl, -⟩⟩ := openOrCreate_cases h
  · exact .inl ⟨read_of_entryAt? hl he, rfl⟩
  · refine .inr ⟨?_, rfl⟩
    unfold read find present
    simp only [hl, he, bind, Except.bind]

/-- What `openOrCreate` cannot open, `write` cannot write. -/
theorem write_error {fault : Fault} (h : t.openOrCreate path = .error fault)
    (written : List UInt8) : t.write path written = .error fault := by
  unfold write
  rw [h]
  rfl

/-- **A file that `openOrCreate` can open, `write` can write**, and then it holds what was written. -/
theorem write_of_openOrCreate (h : t.openOrCreate path = .ok (content, t')) (written : List UInt8) :
    ∃ t'', t.write path written = .ok t'' ∧ t''.openOrCreate path = .ok (written, t'') := by
  obtain ⟨hplain, location, hl, he⟩ := place_of_openOrCreate h
  have hplace : t'.entryAt? location ≠ some .directory := by
    rw [he]
    nofun
  refine ⟨t'.put location (.file written), ?_, openOrCreate_put hplain hl hplace⟩
  rw [write, h]
  simp only [hl, bind, Except.bind]
  rfl

end VolumeDriver.Files.Tree
