import VolumeDriver.Text.Cut
set_option autoImplicit false

/-! # Texts cut where they were joined

What was put together around a pattern is cut apart there again, as long as the pattern occurs nowhere else
that counts: not before the first occurrence (`splitFirst?`), or not behind the last one (`splitLast?`).
Where pieces of one length are replaced (`replaceAll`), no two of them are mistaken for each other. -/

namespace VolumeDriver.Cut

variable {c : Char} {pattern s before after : List Char}

@[simp] theorem dropPrefix?_append (pattern rest : List Char) :
    dropPrefix? pattern (pattern ++ rest) = some rest := by
  induction pattern with
  | nil => rfl
  | cons p pattern ih => rw [List.cons_append, dropPrefix?, if_pos rfl, ih]

/-- A pattern can be taken off the front by `dropPrefix?` of just what begins with it. -/
theorem isSome_dropPrefix? {pattern s : List Char} : (dropPrefix? pattern s).isSome ↔ pattern <+: s := by
  constructor
  · intro h
    induction pattern generalizing s with
    | nil => exact List.nil_prefix
    | cons p pattern ih =>
      cases s with
      | nil => cases h
      | cons c s =>
        rw [dropPrefix?] at h
        split at h
        · rename_i hp
          subst hp
          exact List.cons_prefix_cons.2 ⟨rfl, ih h⟩
        · cases h
  · rintro ⟨rest, rfl⟩
    rw [dropPrefix?_append]
    rfl

theorem dropPrefix?_eq_some_iff {pattern s rest : List Char} :
    dropPrefix? pattern s = some rest ↔ s = pattern ++ rest := by
  constructor
  · intro h
    obtain ⟨rest', rfl⟩ := isSome_dropPrefix?.1 (Option.isSome_of_eq_some h)
    rw [dropPrefix?_append] at h
    rw [Option.some.inj h]
  · rintro rfl
    exact dropPrefix?_append pattern rest

theorem dropPrefix?_cons_ne {p : Char} (h : p ≠ c) (pattern s : List Char) :
    dropPrefix? (p :: pattern) (c :: s) = none := by
  rw [dropPrefix?, if_neg h]

/-- Around the first occurrence of a pattern, where `splitFirst?` has cut it, the text is put together
    again. -/
theorem eq_append_of_splitFirst? (h : splitFirst? pattern s = some (before, after)) :
    s = before ++ (pattern ++ after) := by
  induction s generalizing before with
  | nil =>
    obtain ⟨rest, hrest, heq⟩ := Option.map_eq_some_iff.1 h
    cases heq
    rw [List.nil_append, dropPrefix?_eq_some_iff.1 hrest]
  | cons c s ih =>
    rw [splitFirst?] at h
    split at h
    · rename_i rest hrest
      cases h
      rw [List.nil_append, dropPrefix?_eq_some_iff.1 hrest]
    · obtain ⟨⟨before, after⟩, hsplit, heq⟩ := Option.map_eq_some_iff.1 h
      cases heq
      rw [ih hsplit, List.cons_append]

/-- Around the last occurrence, where `splitLast?` has cut it, as well. -/
theorem eq_append_of_splitLast? (h : splitLast? pattern s = some (before, after)) :
    s = before ++ (pattern ++ after) := by
  induction s generalizing before with
  | nil =>
    obtain ⟨rest, hrest, heq⟩ := Option.map_eq_some_iff.1 h
    cases heq
    rw [List.nil_append, dropPrefix?_eq_some_iff.1 hrest]
  | cons c s ih =>
    rw [splitLast?] at h
    split at h
    · rename_i before after hsplit
      cases h
      rw [ih hsplit, List.cons_append]
    · obtain ⟨rest, hrest, heq⟩ := Option.map_eq_some_iff.1 h
      cases heq
      rw [List.nil_append, dropPrefix?_eq_some_iff.1 hrest]

/-- A pattern is found first by `splitFirst?` where its first character is found first. -/
theorem splitFirst?_append (h : c ∉ before) :
    splitFirst? (c :: pattern) (before ++ (c :: pattern ++ after)) = some (before, after) := by
  induction before with
  | nil =>
    rw [List.nil_append, List.cons_append, splitFirst?, ← List.cons_append, dropPrefix?_append]
  | cons b before ih =>
    have hb := List.ne_of_not_mem_cons h
    have hrest := List.not_mem_of_not_mem_cons h
    rw [List.cons_append, splitFirst?, dropPrefix?_cons_ne hb, ih hrest]
    rfl

theorem splitLast?_eq_none (h : c ∉ s) : splitLast? (c :: pattern) s = none := by
  induction s with
  | nil => rfl
  | cons b s ih =>
    have hb := List.ne_of_not_mem_cons h
    have hrest := List.not_mem_of_not_mem_cons h
    rw [splitLast?, ih hrest, dropPrefix?_cons_ne hb]
    rfl

/-- A pattern is found last by `splitLast?` where it is not found again behind its first character. -/
theorem splitLast?_append (before : List Char)
    (h : splitLast? (c :: pattern) (pattern ++ after) = none) :
    splitLast? (c :: pattern) (before ++ (c :: pattern ++ after)) = some (before, after) := by
  -- Nothing need be said of `before`: an occurrence in it is passed over for the later one.
  induction before with
  | nil =>
    rw [List.nil_append, List.cons_append, splitLast?, h, ← List.cons_append, dropPrefix?_append]
    rfl
  | cons b before ih => rw [List.cons_append, splitLast?, ih]

theorem splitAll_of_not_mem (h : c ∉ s) : splitAll c s = [s] := by
  induction s with
  | nil => rfl
  | cons b s ih =>
    have hb := List.ne_of_not_mem_cons h
    have hrest := List.not_mem_of_not_mem_cons h
    rw [splitAll, if_neg (Ne.symm hb), ih hrest]

/-- The first piece of `splitAll` ends at the first separator. -/
theorem splitAll_append (h : c ∉ before) (after : List Char) :
    splitAll c (before ++ c :: after) = before :: splitAll c after := by
  induction before with
  | nil => rw [List.nil_append, splitAll, if_pos rfl]
  | cons b before ih =>
    have hb := List.ne_of_not_mem_cons h
    have hrest := List.not_mem_of_not_mem_cons h
    rw [List.cons_append, splitAll, if_neg (Ne.symm hb), ih hrest]

/-- There is no separator within the pieces of `splitAll`. -/
theorem not_mem_piece {piece : List Char} (h : piece ∈ splitAll c s) : c ∉ piece := by
  induction s generalizing piece with
  | nil =>
    rw [splitAll, List.mem_singleton] at h
    rw [h]
    exact List.not_mem_nil
  | cons b s ih =>
    rw [splitAll] at h
    split at h
    · rcases List.mem_cons.1 h with rfl | h
      · exact List.not_mem_nil
      · exact ih h
    · rename_i hb
      cases hs : splitAll c s with
      | nil =>
        rw [hs, List.mem_singleton] at h
        rw [h]
        simp [Ne.symm hb]
      | cons first pieces =>
        -- The first piece has become longer by a character that is no separator.
        rw [hs] at h ih
        rcases List.mem_cons.1 h with rfl | h
        · intro hmem
          rcases List.mem_cons.1 hmem with rfl | hmem
          · exact hb rfl
          · exact ih List.mem_cons_self hmem
        · exact ih (List.mem_cons_of_mem _ h)

/-- There is a piece of `splitAll`, if only an empty one. -/
theorem splitAll_ne_nil (c : Char) (s : List Char) : splitAll c s ≠ [] := by
  cases s with
  | nil => exact List.cons_ne_nil _ _
  | cons b s =>
    rw [splitAll]
    split
    · exact List.cons_ne_nil _ _
    · split <;> exact List.cons_ne_nil _ _

/-- The pieces of `splitAll` with the separator between them are the text. -/
theorem intercalate_splitAll (c : Char) (s : List Char) : [c].intercalate (splitAll c s) = s := by
  induction s with
  | nil => rfl
  | cons b s ih =>
    rw [splitAll]
    cases hs : splitAll c s with
    | nil => exact absurd hs (splitAll_ne_nil c s)
    | cons piece pieces =>
      rw [hs] at ih
      split
      · rename_i hb
        rw [hb, ← ih]
        simp [List.intercalate]
      · rw [← ih]
        cases pieces <;> simp [List.intercalate]

/-- What `splitAll` cuts off first, and what is then left to cut. -/
theorem splitAll_eq_cons {piece : List Char} {pieces : List (List Char)}
    (h : splitAll c s = piece :: pieces) :
    c ∉ piece ∧ ((pieces = [] ∧ s = piece) ∨
      ∃ after, s = piece ++ c :: after ∧ splitAll c after = pieces) := by
  have hpiece : c ∉ piece := by
    apply not_mem_piece (s := s)
    rw [h]
    exact List.mem_cons_self
  have hjoined := intercalate_splitAll c s
  rw [h] at hjoined
  refine ⟨hpiece, ?_⟩
  cases pieces with
  | nil => exact .inl ⟨rfl, by simpa using hjoined.symm⟩
  | cons next rest =>
    have hs : s = piece ++ c :: [c].intercalate (next :: rest) := by
      rw [← hjoined]
      simp [List.intercalate]
    refine .inr ⟨_, hs, ?_⟩
    rw [hs, splitAll_append hpiece] at h
    exact (List.cons.inj h).2

/-! ## Pieces replaced -/

section Replace

variable {p : Char} {replacement : List Char}

/-- Of two pieces of one length, `dropPrefix?` does not take the other one off the front. -/
theorem dropPrefix?_append_ne {piece : List Char} (hlength : piece.length = pattern.length)
    (hne : piece ≠ pattern) (s : List Char) : dropPrefix? pattern (piece ++ s) = none := by
  rw [← Option.not_isSome_iff_eq_none, isSome_dropPrefix?]
  intro hprefix
  have hpattern : pattern <+: piece := List.prefix_of_prefix_length_le hprefix
    (List.prefix_append piece s) (Nat.le_of_eq hlength.symm)
  exact hne (hpattern.eq_of_length hlength.symm).symm

theorem replaceAll_append_self (p : Char) (pattern replacement s : List Char) :
    replaceAll (p :: pattern) replacement (p :: pattern ++ s) =
      replacement ++ replaceAll (p :: pattern) replacement s := by
  have hdrop := dropPrefix?_append (p :: pattern) s
  rw [List.cons_append] at hdrop ⊢
  rw [replaceAll, hdrop]
  simp only [List.drop_left]

theorem replaceAll_cons (h : dropPrefix? (p :: pattern) (c :: s) = none) :
    replaceAll (p :: pattern) replacement (c :: s) =
      c :: replaceAll (p :: pattern) replacement s := by
  rw [replaceAll, h]

/-- What a pattern cannot begin in, `replaceAll` leaves as it is. -/
theorem replaceAll_append_of_not_mem (h : p ∉ before) (s : List Char) :
    replaceAll (p :: pattern) replacement (before ++ s) =
      before ++ replaceAll (p :: pattern) replacement s := by
  induction before with
  | nil => rfl
  | cons b before ih =>
    have hb := List.ne_of_not_mem_cons h
    have hrest := List.not_mem_of_not_mem_cons h
    rw [List.cons_append, replaceAll_cons (dropPrefix?_cons_ne hb _ _), ih hrest, List.cons_append]

/-- There is nothing in a text after `replaceAll` but what was in it and what was put into it. -/
theorem mem_replaceAll (h : c ∈ replaceAll pattern replacement s) : c ∈ s ∨ c ∈ replacement := by
  induction pattern, s using replaceAll.induct with
  | case1 s => exact .inl (by rwa [replaceAll] at h)
  | case2 p pattern =>
    rw [replaceAll] at h
    cases h
  | case3 p pattern b s rest hdrop ih =>
    rw [replaceAll, hdrop] at h
    rcases List.mem_append.1 h with h | h
    · exact .inr h
    · exact (ih h).imp (fun hmem => List.mem_cons_of_mem _ (List.mem_of_mem_drop hmem)) id
  | case4 p pattern b s hdrop ih =>
    rw [replaceAll, hdrop] at h
    rcases List.mem_cons.1 h with rfl | h
    · exact .inl List.mem_cons_self
    · exact (ih h).imp (List.mem_cons_of_mem _) id

end Replace

end VolumeDriver.Cut
