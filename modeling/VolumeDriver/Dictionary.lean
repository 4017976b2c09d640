set_option autoImplicit false

/-! # Dictionaries

A `Dictionary` is a finite map from strings, kept as its entries in ascending order of their keys, each key
once. Two dictionaries with the same entries are therefore equal. Keys are compared by their characters'
code points, which is also the order of their octets in UTF-8. -/

namespace VolumeDriver

/-- A finite map from strings. -/
structure Dictionary (α : Type) where
  /-- the entries, in ascending order of their keys -/
  entries : List (String × α)
  ordered : entries.Pairwise fun a b => a.1 < b.1
  deriving DecidableEq, Repr

namespace Dictionary

variable {α β : Type}

/-- The dictionary without entries. -/
def empty : Dictionary α :=
  ⟨[], .nil⟩

instance : Inhabited (Dictionary α) := ⟨empty⟩

/-- The value of a key among some entries. -/
def lookup (key : String) : List (String × α) → Option α
  | [] => none
  | (k, v) :: rest => if k = key then some v else lookup key rest

/-- The value of a key, `none` if it has none. -/
def get? (d : Dictionary α) (key : String) : Option α :=
  lookup key d.entries

/-- The number of entries. -/
def size (d : Dictionary α) : Nat :=
  d.entries.length

/-- The entries with `key` set to `value`, in order if the entries are. -/
def insertEntry (key : String) (value : α) : List (String × α) → List (String × α)
  | [] => [(key, value)]
  | (k, v) :: rest =>
    if key < k then (key, value) :: (k, v) :: rest
    else if key = k then (key, value) :: rest
    else (k, v) :: insertEntry key value rest

theorem mem_insertEntry {key : String} {value : α} {e : String × α} {l : List (String × α)}
    (h : e ∈ insertEntry key value l) : e = (key, value) ∨ e ∈ l := by
  induction l with
  | nil => exact .inl (by simpa [insertEntry] using h)
  | cons a rest ih =>
    simp only [insertEntry] at h
    split at h
    · simpa using h
    · split at h
      · rcases List.mem_cons.1 h with h | h
        · exact .inl h
        · exact .inr (List.mem_cons_of_mem _ h)
      · rcases List.mem_cons.1 h with h | h
        · exact .inr (by simp [h])
        · exact (ih h).imp_right (List.mem_cons_of_mem _)

theorem pairwise_insertEntry (key : String) (value : α) (l : List (String × α))
    (h : l.Pairwise fun a b => a.1 < b.1) :
    (insertEntry key value l).Pairwise fun a b => a.1 < b.1 := by
  induction l with
  | nil => simp [insertEntry]
  | cons a rest ih =>
    obtain ⟨k, v⟩ := a
    obtain ⟨ha, hr⟩ := List.pairwise_cons.1 h
    simp only [insertEntry]
    split
    · rename_i hk
      refine List.pairwise_cons.2 ⟨fun b hb => ?_, h⟩
      rcases List.mem_cons.1 hb with rfl | hb
      · exact hk
      · exact String.lt_trans hk (ha b hb)
    · rename_i hk
      split
      · rename_i he
        subst he
        exact List.pairwise_cons.2 ⟨ha, hr⟩
      · rename_i hne
        refine List.pairwise_cons.2 ⟨fun b hb => ?_, ih hr⟩
        rcases mem_insertEntry hb with rfl | hb
        · rcases String.le_total k key with hle | hle
          · exact Decidable.byContradiction fun hlt =>
              hne (String.le_antisymm (String.not_lt.1 hlt) hle)
          · exact absurd (String.le_antisymm hle (String.not_lt.1 hk)) hne
        · exact ha b hb

/-- The dictionary with `key` set to `value`. -/
def insert (d : Dictionary α) (key : String) (value : α) : Dictionary α :=
  ⟨insertEntry key value d.entries, pairwise_insertEntry key value d.entries d.ordered⟩

/-- The dictionary without `key`. -/
def erase (d : Dictionary α) (key : String) : Dictionary α :=
  ⟨d.entries.filter fun e => e.1 ≠ key, d.ordered.filter _⟩

/-- Whether `get?` finds a value for a key. -/
def contains (d : Dictionary α) (key : String) : Bool :=
  (d.get? key).isSome

/-- The keys, in ascending order. -/
def keys (d : Dictionary α) : List String :=
  d.entries.map (·.1)

/-- The dictionary of some entries; of two for one key the later one counts. -/
def ofList (l : List (String × α)) : Dictionary α :=
  l.foldl (fun d e => d.insert e.1 e.2) empty

/-! ## Sets and queues -/

/-- A finite set of strings. -/
abbrev Names : Type := Dictionary Unit

/-- The dictionary of queues with `value` at the end of a key's queue. -/
def push (d : Dictionary (List α)) (key : String) (value : α) : Dictionary (List α) :=
  d.insert key ((d.get? key).getD [] ++ [value])

/-- The value at the front of a key's queue, and the dictionary without it. An empty queue counts as
    none. -/
def pop (d : Dictionary (List α)) (key : String) : Option α × Dictionary (List α) :=
  match d.get? key with
  | some (value :: rest) => (some value, d.insert key rest)
  | _ => (none, d)

/-! ## Changing the values -/

/-- Each entry's value replaced by what `f` makes of it, up to the first that `f` refuses. -/
def traverseEntries {ε : Type} (f : String → α → Except ε β) :
    List (String × α) → Except ε (List (String × β))
  | [] => .ok []
  | (key, a) :: rest =>
    match f key a with
    | .error e => .error e
    | .ok b =>
      match traverseEntries f rest with
      | .error e => .error e
      | .ok rest => .ok ((key, b) :: rest)

theorem keys_traverseEntries {ε : Type} {f : String → α → Except ε β} {l : List (String × α)}
    {l' : List (String × β)} (h : traverseEntries f l = .ok l') : l'.map (·.1) = l.map (·.1) := by
  induction l generalizing l' with
  | nil => simp only [traverseEntries, Except.ok.injEq] at h; simp [← h]
  | cons a rest ih =>
    obtain ⟨key, a⟩ := a
    simp only [traverseEntries] at h
    split at h
    · simp at h
    · split at h
      · simp at h
      · rename_i hr
        simp only [Except.ok.injEq] at h
        simp [← h, ih hr]

/-- Each value replaced by what `f` makes of it, in ascending order of the keys, up to the first that
    `f` refuses. -/
def traverse {ε : Type} (f : String → α → Except ε β) (d : Dictionary α) :
    Except ε (Dictionary β) :=
  match h : traverseEntries f d.entries with
  | .error e => .error e
  | .ok entries => .ok ⟨entries, by
      have := List.pairwise_map.2 d.ordered
      rw [← keys_traverseEntries h] at this
      exact List.pairwise_map.1 this⟩

end Dictionary

end VolumeDriver
