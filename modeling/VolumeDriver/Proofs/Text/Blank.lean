import Mathlib.Data.List.TakeWhile
import VolumeDriver.Proofs.Text.Cut
import VolumeDriver.Text.Blank
set_option autoImplicit false

/-! # Text cut at blanks

A text of which `trim` leaves nothing is one of blanks only. Words that were written with a blank between
them (`words`), and lines with a line feed behind each (`lines`), are found again. -/

namespace VolumeDriver.Blank

theorem trim_eq_nil_iff (s : List Char) : trim s = [] ↔ s.all isBlank = true := by
  unfold trim
  simp only [List.reverse_eq_nil_iff, List.dropWhile_eq_nil_iff, List.mem_reverse, List.all_eq_true]
  constructor
  · intro h
    -- What is left of the first trim begins with a character that is not blank.
    by_contra hblank
    have hne : s.dropWhile isBlank ≠ [] := fun hnil => hblank (List.dropWhile_eq_nil_iff.1 hnil)
    have hfirst := h _ (List.head_mem hne)
    rw [List.head_dropWhile_not isBlank hne] at hfirst
    cases hfirst
  · intro h c hc
    exact h c ((List.dropWhile_suffix isBlank).subset hc)

theorem trimmed_eq_empty_iff (s : String) : trimmed s = "" ↔ isBlankText s = true := by
  unfold trimmed isBlankText
  rw [← trim_eq_nil_iff, ← String.toList_inj, String.toList_ofList]
  rfl

/-! ## Words and lines -/

section

variable {b : Char} {word s : List Char}

/-- A run of characters that are not blank. -/
def IsWord (word : List Char) : Prop :=
  word ≠ [] ∧ ∀ c ∈ word, isBlank c = false

instance (word : List Char) : Decidable (IsWord word) :=
  decidable_of_iff (word ≠ [] ∧ word.any isBlank = false) (by simp [IsWord])

/-- A run of characters that are not blank (`IsWord`) is not trimmed in front. -/
theorem dropWhile_append_word (hword : IsWord word) (s : List Char) :
    (word ++ s).dropWhile isBlank = word ++ s := by
  obtain ⟨c, word, rfl⟩ := List.exists_cons_of_ne_nil hword.1
  rw [List.cons_append, List.dropWhile_cons_of_neg (by simp [hword.2 c List.mem_cons_self])]

/-- What `trim` leaves of a word with blanks after it is the word. -/
theorem trim_append (hword : IsWord word) (hblanks : s.all isBlank = true) :
    trim (word ++ s) = word := by
  have hreverse : IsWord word.reverse :=
    ⟨List.reverse_ne_nil_iff.2 hword.1, fun c hc => hword.2 c (List.mem_reverse.1 hc)⟩
  have hdrop := dropWhile_append_word hreverse []
  rw [List.append_nil] at hdrop
  rw [trim, dropWhile_append_word hword, List.reverse_append, List.dropWhile_append_of_pos, hdrop,
    List.reverse_reverse]
  exact fun c hc => List.all_eq_true.1 hblanks c (List.mem_reverse.1 hc)

theorem trimmed_append {word blanks : String} (hword : IsWord word.toList)
    (hblanks : isBlankText blanks = true) : trimmed (word ++ blanks) = word := by
  rw [trimmed, String.toList_append, trim_append hword hblanks, String.ofList_toList]

theorem pieces_ne_nil (s : List Char) : pieces s ≠ [] := by
  cases s with
  | nil => exact List.cons_ne_nil _ _
  | cons c s =>
    rw [pieces]
    split
    · exact List.cons_ne_nil _ _
    · split <;> exact List.cons_ne_nil _ _

theorem pieces_append (hword : ∀ c ∈ word, isBlank c = false) (hb : isBlank b = true)
    (s : List Char) : pieces (word ++ b :: s) = word :: pieces s := by
  induction word with
  | nil => rw [List.nil_append, pieces, if_pos hb]
  | cons c word ih =>
    obtain ⟨hc, hrest⟩ := List.forall_mem_cons.1 hword
    rw [List.cons_append, pieces, if_neg (Bool.eq_false_iff.1 hc), ih hrest]

/-- The first of the `words` ends at the first blank. -/
theorem words_append (hword : IsWord word) (hb : isBlank b = true) (s : List Char) :
    words (word ++ b :: s) = word :: words s := by
  rw [words, pieces_append hword.2 hb, List.filter_cons_of_pos (by simpa using hword.1)]
  rfl

/-- There are no blanks within `words`. -/
theorem isBlank_of_mem_words (h : word ∈ words s) : ∀ c ∈ word, isBlank c = false := by
  have hpiece : word ∈ pieces s := (List.mem_filter.1 h).1
  clear h
  induction s generalizing word with
  | nil =>
    obtain rfl := List.mem_singleton.1 hpiece
    exact nofun
  | cons b s ih =>
    rw [pieces] at hpiece
    by_cases hb : isBlank b = true
    · rw [if_pos hb] at hpiece
      rcases List.mem_cons.1 hpiece with rfl | hpiece
      · exact nofun
      · exact ih hpiece
    · rw [if_neg hb] at hpiece
      obtain ⟨piece, rest, hs⟩ := List.exists_cons_of_ne_nil (pieces_ne_nil s)
      rw [hs] at hpiece ih
      -- The first piece has become longer by a character that is not blank.
      rcases List.mem_cons.1 hpiece with rfl | hpiece
      · exact List.forall_mem_cons.2 ⟨Bool.eq_false_iff.2 hb, ih List.mem_cons_self⟩
      · exact ih (List.mem_cons_of_mem _ hpiece)

theorem linesOf_cons {line : List Char} {rest : List (List Char)} (h : rest ≠ []) :
    linesOf (line :: rest) = dropReturn line :: linesOf rest := by
  obtain ⟨next, rest, rfl⟩ := List.exists_cons_of_ne_nil h
  rfl

/-- What `lines` reads is what was written, if each is one line and does not end in a carriage return. -/
theorem lines_flatMap {ls : List (List Char)}
    (h : ∀ line ∈ ls, '\n' ∉ line ∧ line.getLast? ≠ some '\r') :
    lines (ls.flatMap (· ++ ['\n'])) = ls := by
  unfold lines
  induction ls with
  | nil => rfl
  | cons line ls ih =>
    obtain ⟨⟨hline, hreturn⟩, hrest⟩ := List.forall_mem_cons.1 h
    rw [List.flatMap_cons, List.append_assoc, List.singleton_append, Cut.splitAll_append hline,
      linesOf_cons (Cut.splitAll_ne_nil _ _), ih hrest, dropReturn, if_neg hreturn]

end

end VolumeDriver.Blank
