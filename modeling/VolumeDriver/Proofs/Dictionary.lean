import VolumeDriver.Dictionary
set_option autoImplicit false

/-! # Dictionaries as finite maps

What `Dictionary.get?` says of the dictionaries that `insert`, `erase`, `ofList` and `traverse` make, and
dictionaries of queues in which nothing waits (`Drained`). -/

namespace VolumeDriver.Dictionary

variable {α β ε : Type}

/-- The entries of a dictionary are what it says of their keys. -/
theorem mem_of_lookup {key : String} {value : α} {l : List (String × α)}
    (h : lookup key l = some value) : (key, value) ∈ l := by
  induction l with
  | nil => cases h
  | cons e rest ih =>
    obtain ⟨k, v⟩ := e
    simp only [lookup] at h
    by_cases hk : k = key
    · rw [if_pos hk] at h
      cases h
      subst hk
      exact List.mem_cons_self
    · rw [if_neg hk] at h
      exact List.mem_cons_of_mem _ (ih h)

theorem mem_keys_of_contains {d : Dictionary α} {key : String} (h : d.contains key = true) :
    key ∈ d.keys := by
  obtain ⟨value, hvalue⟩ := Option.isSome_iff_exists.1 h
  exact List.mem_map.2 ⟨_, mem_of_lookup hvalue, rfl⟩

theorem isSome_lookup_of_mem {e : String × α} {l : List (String × α)} (h : e ∈ l) :
    (lookup e.1 l).isSome := by
  induction l with
  | nil => cases h
  | cons first rest ih =>
    obtain ⟨k, v⟩ := first
    by_cases hk : k = e.1
    · simp [lookup, hk]
    · simp only [lookup, if_neg hk]
      refine ih ((List.mem_cons.1 h).resolve_left ?_)
      rintro rfl
      exact hk rfl

theorem mem_keys_iff {d : Dictionary α} {key : String} :
    key ∈ d.keys ↔ (d.get? key).isSome := by
  refine ⟨fun h => ?_, mem_keys_of_contains⟩
  obtain ⟨e, he, rfl⟩ := List.mem_map.1 h
  exact isSome_lookup_of_mem he

theorem nodup_keys (d : Dictionary α) : d.keys.Nodup := by
  refine List.Pairwise.map _ ?_ d.ordered
  intro a b hlt heq
  exact String.lt_irrefl _ (heq ▸ hlt)

theorem lookup_insertEntry_self (key : String) (value : α) (l : List (String × α)) :
    lookup key (insertEntry key value l) = some value := by
  induction l with
  | nil => simp [insertEntry, lookup]
  | cons e rest ih =>
    obtain ⟨k, v⟩ := e
    simp only [insertEntry]
    split
    · simp [lookup]
    · split
      · simp [lookup]
      · rename_i hk
        simp only [lookup, if_neg (Ne.symm hk)]
        exact ih

theorem lookup_insertEntry_ne {key other : String} (h : other ≠ key) (value : α)
    (l : List (String × α)) : lookup other (insertEntry key value l) = lookup other l := by
  induction l with
  | nil => simp [insertEntry, lookup, Ne.symm h]
  | cons e rest ih =>
    obtain ⟨k, v⟩ := e
    simp only [insertEntry]
    split
    · simp [lookup, Ne.symm h]
    · split
      · rename_i hk
        subst hk
        simp [lookup, Ne.symm h]
      · simp only [lookup, ih]

@[simp] theorem get?_insert_self (d : Dictionary α) (key : String) (value : α) :
    (d.insert key value).get? key = some value :=
  lookup_insertEntry_self key value d.entries

theorem get?_insert_ne (d : Dictionary α) {key other : String} (h : other ≠ key) (value : α) :
    (d.insert key value).get? other = d.get? other :=
  lookup_insertEntry_ne h value d.entries

theorem get?_insert (d : Dictionary α) (key other : String) (value : α) :
    (d.insert key value).get? other = if other = key then some value else d.get? other := by
  by_cases h : other = key
  · subst h
    simp
  · rw [if_neg h, get?_insert_ne d h]

/-- A dictionary is its entries. -/
theorem ext_entries {d d' : Dictionary α} (h : d.entries = d'.entries) : d = d' := by
  cases d
  cases d'
  cases h
  rfl

/-- An entry whose key comes after all others goes to the end. -/
theorem insertEntry_last {key : String} {value : α} {l : List (String × α)}
    (h : ∀ e ∈ l, e.1 < key) : insertEntry key value l = l ++ [(key, value)] := by
  induction l with
  | nil => rfl
  | cons e rest ih =>
    obtain ⟨k, v⟩ := e
    have hk : k < key := h _ List.mem_cons_self
    have hne : key ≠ k := fun heq => String.lt_irrefl _ (heq ▸ hk)
    rw [insertEntry, if_neg (String.lt_asymm hk), if_neg hne,
      ih fun e he => h e (List.mem_cons_of_mem _ he)]
    rfl

/-- A dictionary is filled up by its `entries` one after the other. -/
theorem entries_insert_next {d acc : Dictionary α} {before after : List (String × α)}
    {e : String × α} (hacc : acc.entries = before) (hd : d.entries = before ++ e :: after) :
    (acc.insert e.1 e.2).entries = before ++ [e] := by
  have hordered := d.ordered
  rw [hd, List.pairwise_append] at hordered
  rw [← hacc]
  -- The entries before it have smaller keys, so this one is put behind them.
  exact insertEntry_last fun b hb => hordered.2.2 b (hacc ▸ hb) e List.mem_cons_self

theorem foldl_insert_entries {d acc : Dictionary α} (before : List (String × α))
    {after : List (String × α)} (hacc : acc.entries = before) (hd : d.entries = before ++ after) :
    after.foldl (fun d e => d.insert e.1 e.2) acc = d := by
  induction after generalizing acc before with
  | nil =>
    rw [List.append_nil, ← hacc] at hd
    exact (ext_entries hd).symm
  | cons e after ih => exact ih _ (entries_insert_next hacc hd) (by simp [hd])

theorem lookup_append (key : String) (l l' : List (String × α)) :
    lookup key (l ++ l') = (lookup key l).or (lookup key l') := by
  induction l with
  | nil => rfl
  | cons e l ih =>
    obtain ⟨k, v⟩ := e
    by_cases hk : k = key
    · simp [lookup, hk]
    · simp [lookup, hk, ih]

theorem get?_foldl_insert (key : String) (l : List (String × α)) (d : Dictionary α) :
    (l.foldl (fun d e => d.insert e.1 e.2) d).get? key = (lookup key l.reverse).or (d.get? key) := by
  induction l generalizing d with
  | nil => rfl
  | cons e l ih =>
    rw [List.foldl_cons, ih, List.reverse_cons, lookup_append, get?_insert, Option.or_assoc]
    by_cases hk : key = e.1
    · simp [lookup, hk]
    · simp [lookup, hk, Ne.symm hk]

/-- Of two entries of `ofList` for a key the later one counts. -/
theorem get?_ofList (key : String) (l : List (String × α)) :
    (ofList l).get? key = lookup key l.reverse := by
  rw [ofList, get?_foldl_insert]
  exact Option.or_none

theorem contains_erase_self (d : Dictionary α) (key : String) :
    (d.erase key).contains key = false := by
  suffices h : lookup key (d.entries.filter fun e => e.1 ≠ key) = none by
    show (lookup key (d.entries.filter fun e => e.1 ≠ key)).isSome = false
    rw [h]
    rfl
  cases hl : lookup key (d.entries.filter fun e => e.1 ≠ key) with
  | none => rfl
  | some value =>
    have hmem := (List.mem_filter.1 (mem_of_lookup hl)).2
    simp at hmem

theorem lookup_filter_ne {key other : String} (h : other ≠ key) (l : List (String × α)) :
    lookup other (l.filter fun e => e.1 ≠ key) = lookup other l := by
  induction l with
  | nil => rfl
  | cons e rest ih =>
    obtain ⟨k, v⟩ := e
    by_cases hk : k = key
    · subst hk
      rw [List.filter_cons_of_neg (by simp), ih, lookup, if_neg (Ne.symm h)]
    · rw [List.filter_cons_of_pos (by simpa using hk), lookup, lookup, ih]

theorem contains_erase_ne (d : Dictionary α) {key other : String} (h : other ≠ key) :
    (d.erase key).contains other = d.contains other :=
  congrArg Option.isSome (lookup_filter_ne h d.entries)

/-- What a dictionary `contains` after an `erase` is what it contained, but for the key that was taken
    out. -/
theorem contains_erase_iff (d : Dictionary α) (key other : String) :
    (d.erase key).contains other = true ↔ other ≠ key ∧ d.contains other = true := by
  by_cases h : other = key
  · subst h
    simp [contains_erase_self]
  · simp [contains_erase_ne d h, h]

theorem contains_insert_iff (d : Dictionary α) (key other : String) (value : α) :
    (d.insert key value).contains other = true ↔ other = key ∨ d.contains other = true := by
  rw [contains, get?_insert]
  by_cases h : other = key
  · simp [h]
  · simp [h, contains]

theorem filter_insertEntry (key : String) (value : α) (l : List (String × α)) :
    (insertEntry key value l).filter (fun e => e.1 ≠ key) = l.filter fun e => e.1 ≠ key := by
  induction l with
  | nil => simp [insertEntry]
  | cons e rest ih =>
    obtain ⟨k, v⟩ := e
    rw [insertEntry]
    split
    · rw [List.filter_cons_of_neg (by simp)]
    · split
      · rename_i hk
        subst hk
        rw [List.filter_cons_of_neg (by simp), List.filter_cons_of_neg (by simp)]
      · rw [List.filter_cons, ih, List.filter_cons]

/-- What `insert` put in does not matter once `erase` takes it out. -/
theorem erase_insert (d : Dictionary α) (key : String) (value : α) :
    (d.insert key value).erase key = d.erase key :=
  ext_entries (filter_insertEntry key value d.entries)

theorem lookup_of_mem {key : String} {value : α} {l : List (String × α)}
    (hordered : l.Pairwise fun a b => a.1 < b.1) (h : (key, value) ∈ l) : lookup key l = some value := by
  induction l with
  | nil => cases h
  | cons e l ih =>
    obtain ⟨hfirst, hrest⟩ := List.pairwise_cons.1 hordered
    rcases List.mem_cons.1 h with rfl | h
    · exact if_pos rfl
    · have hne : e.1 ≠ key := fun heq => String.lt_irrefl _ (heq ▸ hfirst _ h)
      rw [lookup, if_neg hne, ih hrest h]

theorem get?_eq_some_iff {d : Dictionary α} {key : String} {value : α} :
    d.get? key = some value ↔ (key, value) ∈ d.entries :=
  ⟨mem_of_lookup, lookup_of_mem d.ordered⟩

/-! ## Changing the values -/

/-- What `traverseEntries` makes of the values is what the function makes of each. -/
theorem lookup_traverseEntries {f : String → α → Except ε β} {l : List (String × α)}
    {l' : List (String × β)} (h : traverseEntries f l = .ok l') (key : String) :
    (lookup key l').map Except.ok = (lookup key l).map (f key) := by
  induction l generalizing l' with
  | nil =>
    cases h
    rfl
  | cons e l ih =>
    obtain ⟨k, a⟩ := e
    rw [traverseEntries] at h
    cases ha : f k a with
    | error e => simp [ha] at h
    | ok b =>
      cases hl : traverseEntries f l with
      | error e => simp [ha, hl] at h
      | ok more =>
        simp only [ha, hl, Except.ok.injEq] at h
        subst h
        by_cases hk : k = key
        · subst hk
          simp [lookup, ha]
        · simp [lookup, hk, ih hl]

/-- The first value at which `traverseEntries` fails, with what comes before it. -/
theorem traverseEntries_eq_error {f : String → α → Except ε β} {l : List (String × α)} {e : ε}
    (h : traverseEntries f l = .error e) :
    ∃ before key value after, l = before ++ (key, value) :: after ∧ f key value = .error e ∧
      ∀ x ∈ before, ∃ b, f x.1 x.2 = .ok b := by
  induction l with
  | nil => cases h
  | cons x l ih =>
    obtain ⟨k, a⟩ := x
    rw [traverseEntries] at h
    cases ha : f k a with
    | error e' =>
      simp only [ha, Except.error.injEq] at h
      exact ⟨[], k, a, l, rfl, h ▸ ha, by simp⟩
    | ok b =>
      cases hl : traverseEntries f l with
      | ok more => simp [ha, hl] at h
      | error e' =>
        simp only [ha, hl, Except.error.injEq] at h
        obtain ⟨before, key, value, after, rfl, hvalue, hbefore⟩ := ih (h ▸ hl)
        exact ⟨(k, a) :: before, key, value, after, rfl, hvalue,
          List.forall_mem_cons.2 ⟨⟨b, ha⟩, hbefore⟩⟩

theorem traverse_eq_ok {f : String → α → Except ε β} {d : Dictionary α} {d' : Dictionary β}
    (h : d.traverse f = .ok d') (key : String) :
    (d'.get? key).map Except.ok = (d.get? key).map (f key) := by
  unfold traverse at h
  split at h
  · cases h
  · rename_i hentries
    cases h
    exact lookup_traverseEntries hentries key

/-- Of the values that `traverse` finds refused, the one with the least key says why. -/
theorem traverse_eq_error {f : String → α → Except ε β} {d : Dictionary α} {e : ε}
    (h : d.traverse f = .error e) :
    ∃ key value, d.get? key = some value ∧ f key value = .error e ∧
      ∀ other a, d.get? other = some a → other < key → ∃ b, f other a = .ok b := by
  unfold traverse at h
  split at h
  · rename_i hentries
    cases h
    obtain ⟨before, key, value, after, hd, hvalue, hbefore⟩ := traverseEntries_eq_error hentries
    have hordered := d.ordered
    rw [hd, List.pairwise_append, List.pairwise_cons] at hordered
    refine ⟨key, value, get?_eq_some_iff.2 (by simp [hd]), hvalue, fun other a hother hlt => ?_⟩
    have hmem := get?_eq_some_iff.1 hother
    rw [hd] at hmem
    rcases List.mem_append.1 hmem with hmem | hmem
    · exact hbefore _ hmem
    · rcases List.mem_cons.1 hmem with heq | hmem
      · cases heq
        exact absurd hlt (String.lt_irrefl _)
      · exact absurd hlt (String.lt_asymm (hordered.2.1.1 _ hmem))
  · cases h

/-! ## Queues in which nothing waits -/

/-- Every queue of the dictionary is empty, so `pop` finds nothing under any key. -/
def Drained (d : Dictionary (List α)) : Prop :=
  ∀ e ∈ d.entries, e.2 = []

instance [DecidableEq α] (d : Dictionary (List α)) : Decidable d.Drained :=
  inferInstanceAs (Decidable (∀ e ∈ d.entries, e.2 = []))

/-- Nothing comes out of an empty queue. -/
theorem Drained.pop {d : Dictionary (List α)} (h : d.Drained) (key : String) :
    d.pop key = (none, d) := by
  rw [Dictionary.pop]
  cases hq : d.get? key with
  | none => rfl
  | some queue =>
    have hempty : queue = [] := h _ (mem_of_lookup hq)
    rw [hempty]

theorem Drained.insert {d : Dictionary (List α)} (h : d.Drained) (key : String) :
    (d.insert key []).Drained := by
  intro e he
  rcases mem_insertEntry he with rfl | he
  · rfl
  · exact h e he

theorem insertEntry_insertEntry (key : String) (x y : α) (l : List (String × α)) :
    insertEntry key x (insertEntry key y l) = insertEntry key x l := by
  induction l with
  | nil => simp [insertEntry]
  | cons e rest ih =>
    obtain ⟨k, v⟩ := e
    simp only [insertEntry]
    by_cases hlt : key < k
    · simp [hlt, insertEntry]
    · by_cases hk : key = k
      · simp [hk, insertEntry]
      · simp [hlt, hk, insertEntry, ih]

/-- Of two values for a key the later one counts. -/
theorem insert_insert (d : Dictionary α) (key : String) (x y : α) :
    (d.insert key y).insert key x = d.insert key x := by
  simp only [Dictionary.insert, insertEntry_insertEntry]

theorem Drained.push {d : Dictionary (List α)} (h : d.Drained) (key : String) (value : α) :
    d.push key value = d.insert key [value] := by
  rw [Dictionary.push]
  cases hq : d.get? key with
  | none => rfl
  | some queue =>
    have hempty : queue = [] := h _ (mem_of_lookup hq)
    rw [hempty]
    rfl

/-- The only thing that waits in a `Drained` dictionary comes out. -/
theorem Drained.pop_push {d : Dictionary (List α)} (h : d.Drained) (key : String) (value : α) :
    (d.push key value).pop key = (some value, d.insert key []) := by
  rw [h.push, Dictionary.pop, get?_insert_self]
  simp only [insert_insert]

/-- What `push` has put under one key, `pop` does not find under another. -/
theorem Drained.pop_push_ne {d : Dictionary (List α)} (h : d.Drained) {key other : String}
    (hne : other ≠ key) (value : α) :
    (d.push key value).pop other = (none, d.push key value) := by
  rw [h.push, Dictionary.pop, get?_insert_ne d hne]
  cases hq : d.get? other with
  | none => rfl
  | some queue =>
    have hempty : queue = [] := h _ (mem_of_lookup hq)
    rw [hempty]

end VolumeDriver.Dictionary
