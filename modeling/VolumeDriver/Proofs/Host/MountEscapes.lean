import Mathlib.Data.List.Nodup
import VolumeDriver.Proofs.Host.MountTable
set_option autoImplicit false

/-! # Escapes read back in one pass

The escapes of a field are replaced one after the other, and each pass works on what the passes before it
have left. All the same it is as if the field were read once, from left to right (`decode`): passes do not
compete for characters, since no escape begins within another; and they do not work for each other, since
what a pass puts there occurs in no escape that is still to come.

In a field that was written with escapes, what a pass replaces are the escapes of one character, each of them
whole, and nothing else that looks like one. -/

namespace VolumeDriver.MountTable

open Cut

/-- A field read once from left to right: where an escape stands its character, and elsewhere what is
    there. -/
def decode : List Char → List Char
  | '\\' :: '0' :: '4' :: '0' :: s => ' ' :: decode s
  | '\\' :: '0' :: '1' :: '1' :: s => '\t' :: decode s
  | '\\' :: '0' :: '1' :: '2' :: s => '\n' :: decode s
  | '\\' :: '1' :: '3' :: '4' :: s => '\\' :: decode s
  | c :: s => c :: decode s
  | [] => []

variable {table : List (Char × List Char)} {e : Char × List Char} {c : Char} {s : List Char}

/-! ## What a pass puts there -/

/-- What `replaceAll` puts there, and the escapes that it takes away, begin nothing that has neither of
    their first characters in it. -/
theorem prefix_replaceAll_iff {p mark : Char} {code digits : List Char} (hp : p ∉ digits)
    (hmark : mark ∉ digits) : digits <+: replaceAll (p :: code) [mark] s ↔ digits <+: s := by
  induction digits generalizing s with
  | nil => simp
  | cons d digits ih =>
    obtain ⟨hpd, hp⟩ : p ≠ d ∧ p ∉ digits := by simpa using hp
    obtain ⟨hmarkd, hmark⟩ : mark ≠ d ∧ mark ∉ digits := by simpa using hmark
    cases s with
    | nil => simp [replaceAll]
    | cons c s =>
      cases hdrop : dropPrefix? (p :: code) (c :: s) with
      | none => rw [replaceAll_cons hdrop, List.cons_prefix_cons, List.cons_prefix_cons, ih hp hmark]
      | some rest =>
        obtain rfl : c = p := (List.cons.inj (dropPrefix?_eq_some_iff.1 hdrop)).1
        rw [replaceAll, hdrop]
        simp [List.cons_prefix_cons, hpd.symm, hmarkd.symm]

/-- The `passes` leave a character alone with which no escape begins: neither does one begin with it
    later. -/
theorem passes_cons (h : Code table) (hmarks : ∀ e ∈ table, ∀ f ∈ table, e.1 ∉ f.2.tail)
    (hnone : ∀ e ∈ table, ¬e.2 <+: c :: s) : passes table (c :: s) = c :: passes table s := by
  induction table generalizing s with
  | nil => rfl
  | cons e table ih =>
    obtain ⟨code, hcode, -⟩ := h.eq_cons List.mem_cons_self
    have hdrop : dropPrefix? ('\\' :: code) (c :: s) = none := by
      rw [← Option.not_isSome_iff_eq_none, isSome_dropPrefix?, ← hcode]
      exact hnone e List.mem_cons_self
    have hpass : replaceAll e.2 [e.1] (c :: s) = c :: replaceAll e.2 [e.1] s := by
      rw [hcode, replaceAll_cons hdrop]
    have hlater : ∀ f ∈ table, ¬f.2 <+: c :: replaceAll e.2 [e.1] s := by
      intro f hf
      obtain ⟨digits, hdigits, hbackslash, -⟩ := h.eq_cons (List.mem_cons_of_mem _ hf)
      have hmark : e.1 ∉ digits := by
        have := hmarks e List.mem_cons_self f (List.mem_cons_of_mem _ hf)
        rwa [hdigits] at this
      have hbefore := hnone f (List.mem_cons_of_mem _ hf)
      rw [hdigits, List.cons_prefix_cons] at hbefore ⊢
      rwa [hcode, prefix_replaceAll_iff hbackslash hmark]
    show passes table (replaceAll e.2 [e.1] (c :: s)) = c :: passes table (replaceAll e.2 [e.1] s)
    rw [hpass]
    exact ih h.tail (fun e he f hf => hmarks e (List.mem_cons_of_mem _ he) f (List.mem_cons_of_mem _ hf))
      hlater

/-- The `passes` make an escape its character. -/
theorem passes_append (h : Code table) (hmarks : ∀ e ∈ table, ∀ f ∈ table, e.1 ∉ f.2.tail)
    (he : e ∈ table) (s : List Char) : passes table (e.2 ++ s) = e.1 :: passes table s := by
  induction table generalizing s with
  | nil => cases he
  | cons f table ih =>
    have hmarks' : ∀ e ∈ table, ∀ f ∈ table, e.1 ∉ f.2.tail :=
      fun e he f hf => hmarks e (List.mem_cons_of_mem _ he) f (List.mem_cons_of_mem _ hf)
    show passes table (replaceAll f.2 [f.1] (e.2 ++ s)) = e.1 :: passes table (replaceAll f.2 [f.1] s)
    rcases List.mem_cons.1 he with rfl | he
    · rw [h.replaceAll_append_self]
      -- The passes to come begin with a backslash, which is what this one put there only if it is the last.
      refine passes_cons h.tail hmarks' fun f hf hbegins => ?_
      obtain ⟨digits, hdigits, -⟩ := h.tail.eq_cons hf
      rw [hdigits, List.cons_prefix_cons] at hbegins
      obtain ⟨f', table, rfl⟩ := List.exists_cons_of_ne_nil (List.ne_nil_of_mem hf)
      obtain ⟨g, hg, hbackslash⟩ := h.tail.backslash_mem
      exact ((List.pairwise_cons.1 h.distinct).1 g hg).1 (hbegins.1.symm.trans hbackslash.symm)
    · rw [h.replaceAll_append_later he]
      exact ih h.tail hmarks' he _

theorem mark_not_mem_escapes : ∀ e ∈ escapes, ∀ f ∈ escapes, e.1 ∉ f.2.tail := by
  decide

/-- To `unescape` a field, replacing the escapes one after the other, is to `decode` it once, whoever wrote
    it. -/
theorem unescape_eq_decode (field : List Char) : unescape field = decode field := by
  have hescape : ∀ e ∈ escapes, ∀ s, unescape (e.2 ++ s) = e.1 :: unescape s :=
    fun e he s => passes_append code_escapes mark_not_mem_escapes he s
  induction field using decode.induct with
  | case1 s ih => rw [decode, ← ih, ← hescape (' ', ['\\', '0', '4', '0']) (by decide)]; rfl
  | case2 s ih => rw [decode, ← ih, ← hescape ('\t', ['\\', '0', '1', '1']) (by decide)]; rfl
  | case3 s ih => rw [decode, ← ih, ← hescape ('\n', ['\\', '0', '1', '2']) (by decide)]; rfl
  | case4 s ih => rw [decode, ← ih, ← hescape ('\\', ['\\', '1', '3', '4']) (by decide)]; rfl
  | case5 c s hspace htab hnewline hbackslash ih =>
    rw [decode.eq_5 c s hspace htab hnewline hbackslash, ← ih]
    refine passes_cons code_escapes mark_not_mem_escapes ?_
    rintro e he ⟨after, hafter⟩
    simp only [escapes, List.mem_cons, List.not_mem_nil, or_false] at he
    rcases he with rfl | rfl | rfl | rfl
    · obtain ⟨rfl, rfl⟩ := List.cons.inj hafter
      exact hspace after rfl rfl
    · obtain ⟨rfl, rfl⟩ := List.cons.inj hafter
      exact htab after rfl rfl
    · obtain ⟨rfl, rfl⟩ := List.cons.inj hafter
      exact hnewline after rfl rfl
    · obtain ⟨rfl, rfl⟩ := List.cons.inj hafter
      exact hbackslash after rfl rfl
  | case6 => simp [unescape, escapes, replaceAll, decode]

/-! ## What a pass replaces -/

/-- A backslash in what `escapeCharIn` writes for a character begins it, and it is the character's
    escape. -/
theorem Code.eq_nil_of_escapeCharIn (h : Code table) (hne : table ≠ []) {before after : List Char}
    (heq : escapeCharIn table c = before ++ '\\' :: after) :
    before = [] ∧ ∃ f ∈ table, f.1 = c ∧ f.2 = '\\' :: after := by
  rcases escapeCharIn_cases table c with ⟨f, hf, hmark, hescape⟩ | ⟨hnone, hself⟩
  · obtain ⟨digits, hdigits, hbackslash, -⟩ := h.eq_cons hf
    rw [hescape, hdigits] at heq
    cases before with
    | nil => exact ⟨rfl, f, hf, hmark, hdigits.trans heq⟩
    | cons b before =>
      -- The backslash would be one of the digits.
      refine absurd ?_ hbackslash
      rw [(List.cons.inj heq).2]
      simp
  · -- A character that is written as itself is not the backslash.
    obtain ⟨f, table, rfl⟩ := List.exists_cons_of_ne_nil hne
    obtain ⟨g, hg, hmark⟩ := h.backslash_mem
    have hc : c = '\\' := by
      have hmem : '\\' ∈ [c] := by
        rw [← hself, heq]
        simp
      exact (List.mem_singleton.1 hmem).symm
    exact absurd (hmark.trans hc.symm) (hnone g hg)

theorem Code.right {done left : List (Char × List Char)} (h : Code (done ++ left)) : Code left := by
  induction done with
  | nil => exact h
  | cons e done ih => exact ih h.tail

/-- An escape of a `Code` stands for one character. -/
theorem Code.eq_of_snd_eq (h : Code table) {f : Char × List Char} (he : e ∈ table) (hf : f ∈ table)
    (heq : e.2 = f.2) : e = f := by
  have hnodup : (table.map Prod.snd).Nodup := List.pairwise_map.2 (h.distinct.imp And.right)
  exact List.inj_on_of_nodup_map hnodup he hf heq

/-- In what is written with the escapes of a `Code`, each of them stands for one character, and nothing
    looks like one that is not. -/
theorem eq_append_of_flatMap_escapeCharIn (h : Code table) (he : e ∈ table) {text before after : List Char}
    (heq : text.flatMap (escapeCharIn table) = before ++ (e.2 ++ after)) :
    ∃ text₁ text₂, text = text₁ ++ e.1 :: text₂ ∧ text₁.flatMap (escapeCharIn table) = before ∧
      text₂.flatMap (escapeCharIn table) = after := by
  obtain ⟨code, hcode, -, hlength⟩ := h.eq_cons he
  induction text generalizing before with
  | nil =>
    rw [hcode] at heq
    simp at heq
  | cons c text ih =>
    rw [List.flatMap_cons] at heq
    -- What is written for the character ends where the occurrence begins or before, or the occurrence begins
    -- within it.
    rcases List.append_eq_append_iff.1 heq with ⟨between, rfl, hrest⟩ | ⟨between, hchar, hrest⟩
    · obtain ⟨text₁, text₂, rfl, rfl, hafter⟩ := ih hrest
      exact ⟨c :: text₁, text₂, rfl, rfl, hafter⟩
    · cases between with
      | nil =>
        have hhere : text.flatMap (escapeCharIn table) = [] ++ (e.2 ++ after) := hrest.symm
        obtain ⟨text₁, text₂, rfl, hbefore, hafter⟩ := ih hhere
        refine ⟨c :: text₁, text₂, rfl, ?_, hafter⟩
        rw [List.flatMap_cons, hbefore, hchar, List.append_nil, List.append_nil]
      | cons b between =>
        obtain rfl : b = '\\' := by
          rw [hcode] at hrest
          exact (List.cons.inj hrest).1.symm
        obtain ⟨rfl, f, hf, rfl, hwhole⟩ := h.eq_nil_of_escapeCharIn (List.ne_nil_of_mem he) hchar
        obtain ⟨-, -, hflength⟩ := h.shape f hf
        rw [← hwhole] at hrest
        obtain ⟨hsnd, hafter⟩ := List.append_inj hrest (by rw [hcode, hflength]; simp [hlength])
        rw [h.eq_of_snd_eq he hf hsnd]
        exact ⟨[], text, rfl, rfl, hafter.symm⟩

/-! ## All passes -/

/-- What reading a text back comes to that was written with `escape`. -/
structure InOnePass (text : List Char) : Prop where
  /-- What is written for a character is one of four escapes or the character. -/
  written : escape text = text.flatMap fun c =>
    if c = ' ' then "\\040".toList else if c = '\t' then "\\011".toList
    else if c = '\n' then "\\012".toList else if c = '\\' then "\\134".toList else [c]
  /-- The text is read back, in four passes as in one. -/
  back : unescape (escape text) = text ∧ decode (escape text) = text
  /-- What a pass finds is, wherever it finds it, what was written for a character that it is for; what
      stands before and after it was written for the text on either side. -/
  finds : ∀ earlier e later, escapes = earlier ++ e :: later → ∀ before after,
    passes earlier (escape text) = before ++ (e.2 ++ after) →
      ∃ text₁ text₂, text = text₁ ++ e.1 :: text₂ ∧
        passes earlier (escape text₁) = before ∧ passes earlier (escape text₂) = after

/-- **Escapes replaced one after the other are read as in one pass:** all fields as `decode` reads them once
    from left to right, and those that were written with `escape` without ever replacing what is not the
    escape of one character. -/
theorem unescape_inOnePass :
    (∀ field, unescape field = decode field) ∧ ∀ text, InOnePass text := by
  refine ⟨unescape_eq_decode, fun text => ⟨?_, ?_, ?_⟩⟩
  · exact congrArg text.flatMap (funext escapeChar_eq)
  · exact ⟨unescape_escape text, (unescape_eq_decode _).symm.trans (unescape_escape text)⟩
  · intro earlier e later hescapes before after hfound
    have hcode : Code (earlier ++ e :: later) := hescapes ▸ code_escapes
    have hleft : ∀ s, passes earlier (escape s) = s.flatMap (escapeCharIn (e :: later)) := by
      intro s
      rw [← passes_flatMap_escapeCharIn hcode, ← hescapes]
      rfl
    simp only [hleft] at hfound ⊢
    exact eq_append_of_flatMap_escapeCharIn hcode.right List.mem_cons_self hfound

/-- A text that looks like the escape of a space, and a space. The last pass of `unescape` finds the
    backslash in front, and the three passes before it have left alone what stands behind it. -/
theorem unescape_inOnePass_lookalike :
    unescape "\\134040\\040".toList = "\\040 ".toList ∧
      ∃ text₁ text₂, "\\040 ".toList = text₁ ++ '\\' :: text₂ ∧
        passes (escapes.take 3) (escape text₁) = [] ∧
        passes (escapes.take 3) (escape text₂) = "040 ".toList := by
  have h := unescape_inOnePass.2 "\\040 ".toList
  have hwritten : escape "\\040 ".toList = "\\134040\\040".toList := by decide
  have hthree : passes (escapes.take 3) (escape "\\040 ".toList) = "\\134040 ".toList := by
    rw [hwritten]
    decide +kernel
  exact ⟨hwritten ▸ h.back.1, h.finds _ ('\\', ['\\', '1', '3', '4']) [] rfl [] _ hthree⟩

end VolumeDriver.MountTable
