import Mathlib.Data.List.Basic
import VolumeDriver.Host.MountTable
import VolumeDriver.Proofs.Text.Blank
import VolumeDriver.Proofs.Text.Cut
set_option autoImplicit false

/-! # The mount table written and read back

Escapes are read back one after the other, each everywhere in the field, so that each pass works on what
the passes before it have left. `Code` says what makes this undo the writing: all escapes begin with the
backslash, have no other one and are of one length, so no pass sees an escape where two of them meet;
and the backslash itself comes last, so no pass sees one that an earlier pass has put there.

Lines and words are another matter. The table is cut at every blank, and the kernel writes only three of
the blanks as escapes: an entry is read back just where its two paths hold no other blank. -/

namespace VolumeDriver

open Blank Cut

/-- A mount that a table can list: something is mounted somewhere, and the type is one word. -/
structure MountEntry.Listable (e : MountEntry) : Prop where
  source : e.source ≠ ""
  target : e.target ≠ ""
  fsType : IsWord e.fsType.toList

namespace MountTable

/-! ## Fields -/

section Fields

variable {table : List (Char × List Char)} {e : Char × List Char} {c d : Char} {field : List Char}

/-- One character of a field as it is written with the escapes of a table. -/
def escapeCharIn (table : List (Char × List Char)) (c : Char) : List Char :=
  match table.find? fun e => e.1 = c with
  | some e => e.2
  | none => [c]

/-- The escapes that `escapeChar` writes: a backslash and the three octal digits of the character. -/
theorem escapeChar_eq (c : Char) : escapeChar c =
    if c = ' ' then "\\040".toList else if c = '\t' then "\\011".toList
    else if c = '\n' then "\\012".toList else if c = '\\' then "\\134".toList else [c] := by
  unfold escapeChar escapes
  split_ifs with hspace htab hnewline hbackslash
  · rw [hspace]
    rfl
  · rw [htab]
    rfl
  · rw [hnewline]
    rfl
  · rw [hbackslash]
    rfl
  · simp [eq_comm, hspace, htab, hnewline, hbackslash]

/-- A table of escapes that can be read back one after the other. -/
structure Code (table : List (Char × List Char)) : Prop where
  /-- An escape is a backslash and three more characters. -/
  shape : ∀ e ∈ table, e.2 = '\\' :: e.2.tail ∧ '\\' ∉ e.2.tail ∧ e.2.length = 4
  distinct : table.Pairwise fun e f => e.1 ≠ f.1 ∧ e.2 ≠ f.2
  /-- The backslash is read back last. -/
  backslash : ∀ e ∈ table.getLast?, e.1 = '\\'

theorem code_escapes : Code escapes where
  shape := by decide
  distinct := by decide
  backslash := by decide

theorem Code.eq_cons (h : Code table) (he : e ∈ table) :
    ∃ digits, e.2 = '\\' :: digits ∧ '\\' ∉ digits ∧ digits.length = 3 := by
  obtain ⟨hcode, hdigits, hlength⟩ := h.shape e he
  refine ⟨e.2.tail, hcode, hdigits, ?_⟩
  rw [List.length_tail, hlength]

theorem Code.tail (h : Code (e :: table)) : Code table where
  shape f hf := h.shape f (List.mem_cons_of_mem _ hf)
  distinct := (List.pairwise_cons.1 h.distinct).2
  backslash f hf := h.backslash f (List.mem_getLast?_cons hf)

/-- A `Code` always has an escape for the backslash. -/
theorem Code.backslash_mem (h : Code (e :: table)) : ∃ f ∈ e :: table, f.1 = '\\' := by
  refine ⟨(e :: table).getLast (List.cons_ne_nil _ _), List.getLast_mem _, ?_⟩
  exact h.backslash _ (List.getLast?_eq_some_getLast _)

/-- With `escapeCharIn`, a character is written as its escape, or as itself if it has none. -/
theorem escapeCharIn_cases (table : List (Char × List Char)) (c : Char) :
    (∃ f ∈ table, f.1 = c ∧ escapeCharIn table c = f.2) ∨
      (∀ f ∈ table, f.1 ≠ c) ∧ escapeCharIn table c = [c] := by
  unfold escapeCharIn
  cases hfind : table.find? fun e => e.1 = c with
  | some f => exact .inl ⟨f, List.mem_of_find?_eq_some hfind, by simpa using List.find?_some hfind, rfl⟩
  | none => exact .inr ⟨by simpa using hfind, rfl⟩

theorem escapeCharIn_self (e : Char × List Char) (table : List (Char × List Char)) :
    escapeCharIn (e :: table) e.1 = e.2 := by
  simp [escapeCharIn]

theorem escapeCharIn_cons (h : e.1 ≠ c) : escapeCharIn (e :: table) c = escapeCharIn table c := by
  simp [escapeCharIn, h]

/-- The character that the first escape of a `Code` stands for has no other one. -/
theorem Code.escapeCharIn_tail (h : Code (e :: table)) : escapeCharIn table e.1 = [e.1] := by
  rcases escapeCharIn_cases table e.1 with ⟨f, hf, hmark, -⟩ | ⟨-, hself⟩
  · exact absurd hmark.symm ((List.pairwise_cons.1 h.distinct).1 f hf).1
  · exact hself

/-- One `replaceAll` over the escape that it is for. -/
theorem Code.replaceAll_append_self (h : Code (e :: table)) (s : List Char) :
    replaceAll e.2 [e.1] (e.2 ++ s) = e.1 :: replaceAll e.2 [e.1] s := by
  obtain ⟨code, hcode, -⟩ := h.eq_cons List.mem_cons_self
  rw [hcode, Cut.replaceAll_append_self]
  rfl

/-- One `replaceAll` over the escape of a later pass: only its first character could begin the escape that
    is replaced, and does not. -/
theorem Code.replaceAll_append_later (h : Code (e :: table)) {f : Char × List Char} (hf : f ∈ table)
    (s : List Char) : replaceAll e.2 [e.1] (f.2 ++ s) = f.2 ++ replaceAll e.2 [e.1] s := by
  obtain ⟨code, hcode, -, hlength⟩ := h.eq_cons List.mem_cons_self
  obtain ⟨digits, hf', hdigits, hflength⟩ := h.eq_cons (List.mem_cons_of_mem _ hf)
  have hne : '\\' :: digits ≠ '\\' :: code := by
    rw [← hf', ← hcode]
    exact ((List.pairwise_cons.1 h.distinct).1 f hf).2.symm
  have hdrop : dropPrefix? ('\\' :: code) ('\\' :: (digits ++ s)) = none :=
    dropPrefix?_append_ne (by simp [hlength, hflength]) hne s
  rw [hf', hcode, List.cons_append, replaceAll_cons hdrop, replaceAll_append_of_not_mem hdigits,
    List.cons_append]

/-- One `replaceAll` over one character: it reads back the first escape of the table and leaves all else as
    it is written. -/
theorem replaceAll_escapeCharIn_append (h : Code (e :: table)) (c : Char) (s : List Char) :
    replaceAll e.2 [e.1] (escapeCharIn (e :: table) c ++ s) =
      escapeCharIn table c ++ replaceAll e.2 [e.1] s := by
  by_cases hc : e.1 = c
  · subst hc
    rw [escapeCharIn_self, h.escapeCharIn_tail, h.replaceAll_append_self, List.singleton_append]
  · rw [escapeCharIn_cons hc]
    rcases escapeCharIn_cases table c with ⟨f, hf, -, hescape⟩ | ⟨hnone, hself⟩
    · rw [hescape, h.replaceAll_append_later hf]
    · -- A character that is written as itself is not the backslash.
      have hbackslash : '\\' ≠ c := by
        rintro rfl
        obtain ⟨f, hf, hmark⟩ := h.backslash_mem
        rcases List.mem_cons.1 hf with rfl | hf
        · exact hc hmark
        · exact hnone f hf hmark
      obtain ⟨code, hcode, -⟩ := h.eq_cons List.mem_cons_self
      rw [hself, hcode, replaceAll_append_of_not_mem (by simpa using hbackslash)]

/-- One `replaceAll` over a field. -/
theorem replaceAll_flatMap_escapeCharIn (h : Code (e :: table)) (field : List Char) :
    replaceAll e.2 [e.1] (field.flatMap (escapeCharIn (e :: table))) =
      field.flatMap (escapeCharIn table) := by
  induction field with
  | nil =>
    obtain ⟨code, hcode, -⟩ := h.eq_cons List.mem_cons_self
    simp [hcode, replaceAll]
  | cons c field ih =>
    rw [List.flatMap_cons, List.flatMap_cons, replaceAll_escapeCharIn_append h, ih]

/-- The passes for the escapes of a table, each over what the ones before it have left. -/
def passes (table : List (Char × List Char)) (field : List Char) : List Char :=
  table.foldl (fun field e => replaceAll e.2 [e.1] field) field

/-- The first `passes` read back their escapes and leave those of the later ones. -/
theorem passes_flatMap_escapeCharIn {done left : List (Char × List Char)} (h : Code (done ++ left))
    (field : List Char) :
    passes done (field.flatMap (escapeCharIn (done ++ left))) = field.flatMap (escapeCharIn left) := by
  induction done with
  | nil => rfl
  | cons e done ih =>
    have hpass : replaceAll e.2 [e.1] (field.flatMap (escapeCharIn (e :: (done ++ left)))) =
        field.flatMap (escapeCharIn (done ++ left)) := replaceAll_flatMap_escapeCharIn h field
    show passes done (replaceAll e.2 [e.1] (field.flatMap (escapeCharIn (e :: (done ++ left))))) = _
    rw [hpass, ih h.tail]

/-- A field is read back by `unescape` as it was meant, whatever is in it. -/
@[simp] theorem unescape_escape (field : List Char) : unescape (escape field) = field := by
  have hall : Code (escapes ++ []) := code_escapes
  exact (passes_flatMap_escapeCharIn hall field).trans (List.flatMap_singleton' field)

/-- A blank in what `escape` writes is one of the field that has no escape. -/
theorem mem_escape_of_isBlank (h : c ∈ escape field) (hblank : isBlank c = true) :
    c ∈ field ∧ ∀ e ∈ escapes, e.1 ≠ c := by
  obtain ⟨d, hd, hc⟩ := List.mem_flatMap.1 h
  have hcodes : ∀ e ∈ escapes, e.2.any isBlank = false := by decide
  rcases escapeCharIn_cases escapes d with ⟨e, he, -, hescape⟩ | ⟨hnone, hself⟩
  · change c ∈ escapeCharIn escapes d at hc
    rw [hescape] at hc
    exact absurd hblank (List.any_eq_false.1 (hcodes e he) c hc)
  · change c ∈ escapeCharIn escapes d at hc
    rw [hself, List.mem_singleton] at hc
    subst hc
    exact ⟨hd, hnone⟩

theorem newline_not_mem_escape (field : List Char) : '\n' ∉ escape field := by
  intro h
  exact (mem_escape_of_isBlank h rfl).2 ('\n', ['\\', '0', '1', '2']) (by decide) rfl

theorem escape_ne_nil (h : field ≠ []) : escape field ≠ [] := by
  obtain ⟨c, rest, rfl⟩ := List.exists_cons_of_ne_nil h
  intro hnil
  have hchar : escapeCharIn escapes c = [] := (List.append_eq_nil_iff.1 hnil).1
  rcases escapeCharIn_cases escapes c with ⟨e, he, -, hescape⟩ | ⟨-, hself⟩
  · obtain ⟨-, -, hlength⟩ := code_escapes.shape e he
    rw [← hescape, hchar] at hlength
    cases hlength
  · rw [hself] at hchar
    cases hchar

/-- There is nothing in what `unescape` gives but what was written and the characters that have
    `escapes`. -/
theorem mem_unescape (h : c ∈ unescape field) : c ∈ field ∨ ∃ e ∈ escapes, e.1 = c := by
  revert h
  unfold unescape
  generalize escapes = table
  induction table generalizing field with
  | nil => exact .inl
  | cons e table ih =>
    intro h
    rcases ih h with h | ⟨f, hf, hmark⟩
    · rcases mem_replaceAll h with h | h
      · exact .inl h
      · exact .inr ⟨e, List.mem_cons_self, (List.mem_singleton.1 h).symm⟩
    · exact .inr ⟨f, List.mem_cons_of_mem _ hf, hmark⟩

end Fields

/-! ## Lines -/

section Lines

variable {e : MountEntry} {options : List Char}

/-- A path that can be told from its neighbours: the blanks in it are those that have `escapes`. -/
def Legible (path : String) : Prop :=
  ∀ c ∈ path.toList, isBlank c = true → c = ' ' ∨ c = '\t' ∨ c = '\n'

instance (path : String) : Decidable (Legible path) :=
  List.decidableBAll (fun c => isBlank c = true → c = ' ' ∨ c = '\t' ∨ c = '\n') path.toList

theorem isWord_escape {path : String} (hne : path ≠ "") (h : Legible path) :
    IsWord (escape path.toList) := by
  refine ⟨escape_ne_nil (by simpa using hne), ?_⟩
  intro c hc
  by_contra hblank
  rw [Bool.not_eq_false] at hblank
  obtain ⟨hmem, hnone⟩ := mem_escape_of_isBlank hc hblank
  simp only [escapes, List.forall_mem_cons] at hnone
  rcases h c hmem hblank with rfl | rfl | rfl
  · exact hnone.1 rfl
  · exact hnone.2.1 rfl
  · exact hnone.2.2.1 rfl

/-- What a word of a line spells is `Legible`. -/
theorem legible_unescape {word : List Char} (h : ∀ c ∈ word, isBlank c = false) :
    Legible (String.ofList (unescape word)) := by
  intro c hc hblank
  rw [String.toList_ofList] at hc
  rcases mem_unescape hc with hc | ⟨e, he, rfl⟩
  · rw [h c hc] at hblank
    cases hblank
  · simp only [escapes, List.mem_cons, List.not_mem_nil, or_false] at he
    rcases he with rfl | rfl | rfl | rfl
    · exact .inl rfl
    · exact .inr (.inl rfl)
    · exact .inr (.inr rfl)
    · cases hblank

theorem line_eq (e : MountEntry) (options : List Char) :
    line e options = escape e.source.toList ++ ' ' :: (escape e.target.toList ++
      ' ' :: (e.fsType.toList ++ ' ' :: (options ++ [' ', '0', ' ', '0']))) := by
  simp [line, List.intercalate]

/-- A `line` is one line, and nothing at its end belongs to the line feed behind it. -/
theorem newline_not_mem_line (he : e.Listable) (ho : '\n' ∉ options) :
    '\n' ∉ line e options ∧ (line e options).getLast? ≠ some '\r' := by
  have htype : '\n' ∉ e.fsType.toList := by
    intro h
    exact absurd (he.fsType.2 _ h) (by decide)
  rw [line_eq]
  constructor
  · simp [newline_not_mem_escape, htype, ho]
  · simp [List.getLast?_append, List.getLast?_cons]

/-- The paths that `parseLine?` reads are `Legible`, whoever wrote the line. -/
theorem legible_of_parseLine? {text : List Char} (h : parseLine? text = some e) :
    Legible e.source ∧ Legible e.target := by
  have hwords : ∀ word ∈ words text, Legible (String.ofList (unescape word)) := by
    intro word hword
    exact legible_unescape (isBlank_of_mem_words hword)
  unfold parseLine? at h
  split at h
  · rename_i source target fsType rest heq
    obtain rfl := Option.some.inj h
    rw [heq] at hwords
    exact ⟨hwords source (by simp), hwords target (by simp)⟩
  · cases h

/-- A `line` spells the entry that it was written for just where both paths are `Legible`. -/
theorem parseLine?_line_iff (he : e.Listable) (options : List Char) :
    parseLine? (line e options) = some e ↔ Legible e.source ∧ Legible e.target := by
  constructor
  · exact legible_of_parseLine?
  · rintro ⟨hsource, htarget⟩
    unfold parseLine?
    rw [line_eq, words_append (isWord_escape he.source hsource) rfl,
      words_append (isWord_escape he.target htarget) rfl, words_append he.fsType rfl]
    simp

end Lines

/-! ## Tables -/

/-- The text of a table, each mount with its options, as the kernel writes it. -/
def written (table : List (MountEntry × List Char)) : List Char :=
  (table.map fun m => line m.1 m.2).flatMap (· ++ ['\n'])

/-- The lines of a table are read by `parse` one by one. -/
theorem parse_written {table : List (MountEntry × List Char)}
    (h : ∀ m ∈ table, m.1.Listable ∧ '\n' ∉ m.2) :
    parse (written table) = table.filterMap fun m => parseLine? (line m.1 m.2) := by
  have hlines : ∀ l ∈ table.map fun m => line m.1 m.2, '\n' ∉ l ∧ l.getLast? ≠ some '\r' := by
    intro l hl
    obtain ⟨m, hm, rfl⟩ := List.mem_map.1 hl
    exact newline_not_mem_line (h m hm).1 (h m hm).2
  unfold parse written
  rw [lines_flatMap hlines, List.filterMap_map]
  rfl

/-- **A table that is `written` is read back by `parse` just where its paths are `Legible`.** The escapes
    are no obstacle, whatever digits stand behind a backslash; but the words of a line end at any blank, and
    of the blanks the kernel writes only the space, the tab and the line feed as escapes. -/
theorem written_table_read_back {table : List (MountEntry × List Char)}
    (h : ∀ m ∈ table, m.1.Listable ∧ '\n' ∉ m.2) :
    (∀ field, escape field = field.flatMap fun c =>
      if c = ' ' then "\\040".toList else if c = '\t' then "\\011".toList
      else if c = '\n' then "\\012".toList else if c = '\\' then "\\134".toList else [c]) ∧
    (parse (written table) = table.map Prod.fst ↔
      ∀ m ∈ table, Legible m.1.source ∧ Legible m.1.target) := by
  refine ⟨fun field => congrArg field.flatMap (funext escapeChar_eq), ?_⟩
  rw [parse_written h, List.filterMap_eq_map_iff_forall_eq_some]
  constructor
  · intro hread m hm
    exact (parseLine?_line_iff (h m hm).1 m.2).1 (hread m hm)
  · intro hlegible m hm
    exact (parseLine?_line_iff (h m hm).1 m.2).2 (hlegible m hm)

/-- A mount point whose name has the digits of `escapes` in it, next to blanks and a backslash. -/
theorem written_table_read_back_escapes :
    (∀ m ∈ [((⟨"/dev/my disk", "/mnt/\\040 \\\\134\t", "ext4"⟩ : MountEntry), "rw,noatime".toList)],
      m.1.Listable ∧ '\n' ∉ m.2) ∧
    parse (written [(⟨"/dev/my disk", "/mnt/\\040 \\\\134\t", "ext4"⟩, "rw,noatime".toList)]) =
      [⟨"/dev/my disk", "/mnt/\\040 \\\\134\t", "ext4"⟩] := by
  have h : ∀ m ∈ [((⟨"/dev/my disk", "/mnt/\\040 \\\\134\t", "ext4"⟩ : MountEntry),
      "rw,noatime".toList)], m.1.Listable ∧ '\n' ∉ m.2 := by
    intro m hm
    rw [List.mem_singleton] at hm
    subst hm
    exact ⟨⟨by decide, by decide, by decide⟩, by decide⟩
  exact ⟨h, (written_table_read_back h).2.2 (by decide)⟩

/-- A mount point with a no-break space, which the kernel writes as itself, is read by `parse` as the part
    before the space, and what follows the space is taken for the type. -/
theorem parse_written_noBreakSpace :
    (⟨"/dev/sdb", "/mnt/a\u00a0b", "ext4"⟩ : MountEntry).Listable ∧
    written [(⟨"/dev/sdb", "/mnt/a\u00a0b", "ext4"⟩, "rw".toList)] =
      "/dev/sdb /mnt/a\u00a0b ext4 rw 0 0\n".toList ∧
    parse "/dev/sdb /mnt/a\u00a0b ext4 rw 0 0\n".toList = [⟨"/dev/sdb", "/mnt/a", "b"⟩] := by
  refine ⟨⟨by decide, by decide, by decide⟩, by decide, ?_⟩
  decide +kernel

end MountTable

end VolumeDriver
