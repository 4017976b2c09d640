import VolumeDriver.Proofs.Json.Number
import VolumeDriver.Proofs.Json.Spelling
set_option autoImplicit false

/-! # Values of any kind passed over

The grammar of JSON, said without the reader (`Conforms`). What conforms to it is passed over as a whole by
`skipValue`, whatever its kind and depth, and what follows is left to be read.

The lists and objects that are open around a value are a stack in the reader and nesting in the grammar; so
what is said of each part (`Skips`) is what becomes of the stack, and a value leaves it as it was. -/

namespace VolumeDriver.Json

open Utf8

/-! ## The grammar -/

/-- What may stand between quotes, whether or not it spells characters. -/
inductive TextBody : List Char → Prop
  | nil : TextBody []
  | plain {c : Char} {s : List Char} (hlow : 0x20 ≤ c.toNat) (hquote : c ≠ '"') (hslash : c ≠ '\\')
      (more : TextBody s) : TextBody (c :: s)
  | letter {l c : Char} {s : List Char} (h : (l, c) ∈ letterEscapes) (more : TextBody s) :
      TextBody ('\\' :: l :: s)
  /-- Half of a surrogate pair may stand alone. -/
  | number {n : Nat} {digits s : List Char} (h : HexFour n digits) (more : TextBody s) :
      TextBody ('\\' :: 'u' :: (digits ++ s))

/-- The parts of a JSON text, by which `Conforms` is one relation for all of them. -/
inductive Part
  | value
  /-- a value with blanks around it -/
  | element
  | elements
  | members

/-- The text conforms to the grammar, as a part of a JSON text. -/
inductive Conforms : Part → List Char → Prop
  | null : Conforms .value ['n', 'u', 'l', 'l']
  | yes : Conforms .value ['t', 'r', 'u', 'e']
  | no : Conforms .value ['f', 'a', 'l', 's', 'e']
  | number {whole fraction exponent : List Char} (hw : WholeText whole) (hf : FractionText fraction)
      (he : ExponentText exponent) : Conforms .value (whole ++ (fraction ++ exponent))
  | negative {whole fraction exponent : List Char} (hw : WholeText whole) (hf : FractionText fraction)
      (he : ExponentText exponent) : Conforms .value ('-' :: (whole ++ (fraction ++ exponent)))
  | text {body : List Char} (h : TextBody body) : Conforms .value ('"' :: (body ++ ['"']))
  | emptyList {b : List Char} (h : Blanks b) : Conforms .value ('[' :: (b ++ [']']))
  | list {raw : List Char} (h : Conforms .elements raw) : Conforms .value ('[' :: (raw ++ [']']))
  | emptyObject {b : List Char} (h : Blanks b) : Conforms .value ('\x7b' :: (b ++ ['\x7d']))
  | object {raw : List Char} (h : Conforms .members raw) : Conforms .value ('\x7b' :: (raw ++ ['\x7d']))
  | element {b₁ raw b₂ : List Char} (h₁ : Blanks b₁) (h : Conforms .value raw) (h₂ : Blanks b₂) :
      Conforms .element (b₁ ++ (raw ++ b₂))
  | oneElement {raw : List Char} (h : Conforms .element raw) : Conforms .elements raw
  | moreElements {raw raws : List Char} (h : Conforms .element raw) (more : Conforms .elements raws) :
      Conforms .elements (raw ++ ',' :: raws)
  | oneMember {b₁ key b₂ raw : List Char} (h₁ : Blanks b₁) (hkey : TextBody key) (h₂ : Blanks b₂)
      (h : Conforms .element raw) : Conforms .members (b₁ ++ '"' :: (key ++ '"' :: (b₂ ++ ':' :: raw)))
  | moreMembers {raw raws : List Char} (h : Conforms .members raw) (more : Conforms .members raws) :
      Conforms .members (raw ++ ',' :: raws)

/-! ## Texts -/

theorem skipText_plains {bs : List UInt8} (h : ∀ b ∈ bs, isPlain b) (s : List UInt8) :
    skipText (bs ++ s) = skipText s := by
  induction bs with
  | nil => rfl
  | cons b bs ih =>
    obtain ⟨hquote, hslash, hlow⟩ := h b List.mem_cons_self
    rw [List.cons_append, skipText, if_neg hquote, if_neg hslash, if_neg hlow]
    exact ih fun b hb => h b (List.mem_cons_of_mem _ hb)

theorem skipText_escape {s : List UInt8} {width : Nat} (h : escapeWidth s = .ok width) :
    skipText (0x5C :: s) = skipText (s.drop width) := by
  rw [skipText, if_neg (by decide), if_pos rfl, h]

theorem escapeWidth_letter {l c : Char} (h : (l, c) ∈ letterEscapes) (s : List UInt8) :
    escapeWidth (encode [l] ++ s) = .ok 1 ∧ (encode [l]).length = 1 := by
  simp only [letterEscapes, List.mem_cons, Prod.mk.injEq, List.not_mem_nil, or_false] at h
  rcases h with ⟨rfl, rfl⟩ | ⟨rfl, rfl⟩ | ⟨rfl, rfl⟩ | ⟨rfl, rfl⟩ | ⟨rfl, rfl⟩ | ⟨rfl, rfl⟩ | ⟨rfl, rfl⟩ |
    ⟨rfl, rfl⟩ <;> exact ⟨rfl, rfl⟩

/-- A text is passed over by `skipText` up to its closing quote. -/
theorem skipText_body {body : List Char} (h : TextBody body) (rest : List UInt8) :
    skipText (encode body ++ 0x22 :: rest) = .ok rest := by
  induction h with
  | nil =>
    show skipText (0x22 :: rest) = _
    rw [skipText, if_pos rfl]
  | plain hlow hquote hslash _ ih =>
    rw [encode_cons, List.append_assoc, skipText_plains _ _, ih]
    exact isPlain_encodeChar hlow (fun h => hquote (Char.toNat_inj.1 h)) fun h => hslash (Char.toNat_inj.1 h)
  | @letter l c s h _ ih =>
    obtain ⟨hwidth, hlength⟩ := escapeWidth_letter h (encode s ++ 0x22 :: rest)
    have hoctets : encode ('\\' :: l :: s) ++ 0x22 :: rest =
        0x5C :: (encode [l] ++ (encode s ++ 0x22 :: rest)) := by
      simp
      rfl
    rw [hoctets, skipText_escape hwidth, ← hlength, List.drop_left, ih]
  | @number n digits s h _ ih =>
    obtain ⟨hfour, hlength⟩ := hexFour_digits h (encode s ++ 0x22 :: rest)
    have hwidth : escapeWidth (0x75 :: (encode digits ++ (encode s ++ 0x22 :: rest))) = .ok 5 := by
      rw [escapeWidth, if_neg (by decide), if_pos rfl, hfour]
    have hoctets : encode ('\\' :: 'u' :: (digits ++ s)) ++ 0x22 :: rest =
        0x5C :: 0x75 :: (encode digits ++ (encode s ++ 0x22 :: rest)) := by
      simp
      rfl
    rw [hoctets, skipText_escape hwidth, List.drop_succ_cons, ← hlength, List.drop_left, ih]

/-! ## Open lists and objects -/

section Frames

variable {fresh : Bool} {frame : Frame} {frames : List Frame} {b : UInt8} {s t : List UInt8}

theorem skipFrom_eq (h : skipBlanks s = b :: t) :
    skipFrom frames s =
      match skipPiece b t with
      | .error f => .error f
      | .ok (none, rest) => skipWithin false frames rest
      | .ok (some frame, rest) => skipWithin true (frame :: frames) rest := by
  rw [skipFrom]
  split
  · rename_i heq
    cases heq.symm.trans h
  · rename_i heq
    cases heq.symm.trans h
    split <;> simp [*]

theorem skipWithin_eq (h : skipBlanks s = b :: t) :
    skipWithin fresh (frame :: frames) s =
      if b = frame.closing then skipWithin false frames t
      else if fresh then
        match frame.skipKey (b :: t) with
        | .error f => .error f
        | .ok rest => skipFrom (frame :: frames) rest
      else if b = 0x2C then
        match frame.skipKey t with
        | .error f => .error f
        | .ok rest => skipFrom (frame :: frames) rest
      else .error (.atNext frame.expectedComma (b :: t)) := by
  rw [skipWithin]
  split
  · rename_i heq
    cases heq.symm.trans h
  · rename_i heq
    cases heq.symm.trans h
    split
    · rfl
    · split
      · split <;> simp [*]
      · split
        · split <;> simp [*]
        · rfl

/-- A value without pieces (`skipPiece`) is done with at once by `skipFrom`. -/
theorem skipFrom_piece (h : isBlank b = false) (hpiece : skipPiece b t = .ok (none, s)) :
    skipFrom frames (b :: t) = skipWithin false frames s := by
  rw [skipFrom_eq (skipBlanks_cons h t), hpiece]

/-- A list or an object is opened by `skipFrom`, and is then the innermost. -/
theorem skipFrom_open (h : isBlank b = false) (hpiece : skipPiece b t = .ok (some frame, s)) :
    skipFrom frames (b :: t) = skipWithin true (frame :: frames) s := by
  rw [skipFrom_eq (skipBlanks_cons h t), hpiece]

theorem isBlank_of_skipBlanks (h : skipBlanks s = b :: t) : isBlank b = false := by
  have hhead := List.head?_dropWhile_not isBlank s
  rw [← skipBlanks, h] at hhead
  exact hhead

/-- Blanks in front of a value do not matter to `skipFrom`. -/
theorem skipFrom_skipBlanks (h : skipBlanks s = b :: t) : skipFrom frames (b :: t) = skipFrom frames s := by
  rw [skipFrom_eq h, skipFrom_eq (skipBlanks_cons (isBlank_of_skipBlanks h) t)]

/-- Nor do blanks within a list or an object to `skipWithin`. -/
theorem skipWithin_blanks {blanks : List Char} (hblanks : Blanks blanks) (h : isBlank b = false) :
    skipWithin fresh (frame :: frames) (encode blanks ++ b :: t) =
      skipWithin fresh (frame :: frames) (b :: t) := by
  rw [skipWithin_eq (skipBlanks_blanks_cons hblanks h t), skipWithin_eq (skipBlanks_cons h t)]

theorem isBlank_closing (frame : Frame) : isBlank frame.closing = false := by
  cases frame <;> decide

/-- A bracket closes what it belongs to. -/
theorem skipWithin_closing (s : List UInt8) :
    skipWithin fresh (frame :: frames) (frame.closing :: s) = skipWithin false frames s := by
  rw [skipWithin_eq (skipBlanks_cons (isBlank_closing frame) s), if_pos rfl]

/-- Behind a comma `skipWithin` passes over the next value, and in an object first its key
    (`Frame.skipKey`). -/
theorem skipWithin_comma {after : List UInt8} (hkey : frame.skipKey s = .ok after) :
    skipWithin false (frame :: frames) (0x2C :: s) = skipFrom (frame :: frames) after := by
  have hclosing : ¬(0x2C : UInt8) = frame.closing := by cases frame <;> decide
  rw [skipWithin_eq (skipBlanks_cons (b := 0x2C) (by decide) s), if_neg hclosing]
  simp only [Bool.false_eq_true, if_false, if_true, hkey]

/-- So it is behind the bracket that opens a list or an object which is not empty. -/
theorem skipWithin_fresh (h : skipBlanks s = b :: t) (hclosing : b ≠ frame.closing) {after : List UInt8}
    (hkey : frame.skipKey (b :: t) = .ok after) :
    skipWithin true (frame :: frames) s = skipFrom (frame :: frames) after := by
  rw [skipWithin_eq h, if_neg hclosing]
  simp only [if_true, hkey]

theorem skipKey_object {u v : List UInt8} (h : skipBlanks s = 0x22 :: t) (htext : skipText t = .ok u)
    (hcolon : skipBlanks u = 0x3A :: v) : Frame.object.skipKey s = .ok v := by
  simp only [Frame.skipKey, h, if_true, htext, hcolon]

end Frames

/-! ## Values -/

theorem endsNumber_blanks {blanks : List Char} (h : Blanks blanks) {rest : List UInt8}
    (hrest : EndsNumber rest) : EndsNumber (encode blanks ++ rest) := by
  cases blanks with
  | nil => exact hrest
  | cons c blanks =>
    rcases h c List.mem_cons_self with rfl | rfl | rfl | rfl <;>
      exact ⟨by decide, by decide, by decide, by decide⟩

/-- What it is to pass over a `Part`, which leaves the stack of what is open as it was. -/
def Skips : Part → List Char → Prop
  | .value, raw => (∃ b t, encode raw = b :: t ∧ isBlank b = false ∧ b ≠ 0x5D) ∧
      ∀ frames rest, EndsNumber rest →
        skipFrom frames (encode raw ++ rest) = skipWithin false frames rest
  | .element, raw => ∀ b rest, Delimits (b :: rest) →
      (∃ first t, skipBlanks (encode raw ++ b :: rest) = first :: t ∧ first ≠ 0x5D) ∧
      ∀ frame frames, skipFrom (frame :: frames) (encode raw ++ b :: rest) =
        skipWithin false (frame :: frames) (b :: rest)
  | .elements, raw => ∀ b rest, Delimits (b :: rest) →
      (∃ first t, skipBlanks (encode raw ++ b :: rest) = first :: t ∧ first ≠ 0x5D) ∧
      ∀ frames, skipFrom (.list :: frames) (encode raw ++ b :: rest) =
        skipWithin false (.list :: frames) (b :: rest)
  | .members, raw => ∀ b rest, Delimits (b :: rest) →
      ∃ t after, skipBlanks (encode raw ++ b :: rest) = 0x22 :: t ∧
        (∀ s, skipBlanks s = 0x22 :: t → Frame.object.skipKey s = .ok after) ∧
        ∀ frames, skipFrom (.object :: frames) after = skipWithin false (.object :: frames) (b :: rest)

/-- A value that is passed over as one piece. -/
theorem skips_piece {raw : List Char} {b : UInt8} {t : List UInt8} (hoctets : encode raw = b :: t)
    (hb : isBlank b = false ∧ b ≠ 0x5D)
    (h : ∀ rest, EndsNumber rest → skipPiece b (t ++ rest) = .ok (none, rest)) : Skips .value raw := by
  refine ⟨⟨b, t, hoctets, hb⟩, fun frames rest hrest => ?_⟩
  rw [hoctets, List.cons_append, skipFrom_piece hb.1 (h rest hrest)]

theorem skipPiece_digit {b : UInt8} (h : isDigit b = true) (t : List UInt8) :
    skipPiece b t = (none, ·) <$> skipNumber (b :: t) := by
  have hne := ne_of_isDigit h
  simp [skipPiece, hne 0x6E rfl, hne 0x74 rfl, hne 0x66 rfl, hne 0x2D rfl, h]

theorem skips_number {whole fraction exponent : List Char} (hw : WholeText whole)
    (hf : FractionText fraction) (he : ExponentText exponent) :
    Skips .value (whole ++ (fraction ++ exponent)) := by
  obtain ⟨c, s, rfl, hc⟩ : ∃ c s, whole = c :: s ∧ c.isDigit = true := by
    cases hw with
    | zero => exact ⟨'0', [], rfl, rfl⟩
    | digits _ h => exact ⟨_, _, rfl, h.2 _ List.mem_cons_self⟩
  obtain ⟨hoctet, hdigit, -⟩ := encodeChar_digit hc
  have hfirst : encode (c :: s ++ (fraction ++ exponent)) =
      c.toNat.toUInt8 :: (encode s ++ (encode fraction ++ encode exponent)) := by
    simp [hoctet]
  refine skips_piece hfirst ⟨isBlank_digit hdigit, ne_of_isDigit hdigit _ rfl⟩ fun rest hrest => ?_
  have hskip := skipNumber_spelling hw hf he hrest
  rw [encode_cons, hoctet] at hskip
  rw [skipPiece_digit hdigit]
  simp only [List.cons_append, List.nil_append, List.append_assoc] at hskip ⊢
  rw [hskip]
  rfl

theorem skips_negative {whole fraction exponent : List Char} (hw : WholeText whole)
    (hf : FractionText fraction) (he : ExponentText exponent) :
    Skips .value ('-' :: (whole ++ (fraction ++ exponent))) := by
  refine skips_piece rfl (by decide) fun rest hrest => ?_
  show (none, ·) <$> skipNumber (encode (whole ++ (fraction ++ exponent)) ++ rest) = _
  rw [encode_append, encode_append, List.append_assoc, List.append_assoc,
    skipNumber_spelling hw hf he hrest]
  rfl

theorem skips_text {body : List Char} (h : TextBody body) : Skips .value ('"' :: (body ++ ['"'])) := by
  refine skips_piece rfl (by decide) fun rest _ => ?_
  show (none, ·) <$> skipText (encode (body ++ ['"']) ++ rest) = _
  rw [encode_append, List.append_assoc]
  exact congrArg ((none, ·) <$> ·) (skipText_body h rest)

theorem skips_element {b₁ raw b₂ : List Char} (h₁ : Blanks b₁) (h : Skips .value raw) (h₂ : Blanks b₂) :
    Skips .element (b₁ ++ (raw ++ b₂)) := by
  intro c rest hrest
  obtain ⟨⟨b, t, hoctets, hblank, hclosing⟩, hskip⟩ := h
  have hvalue := fun frames => hskip frames _ (endsNumber_blanks h₂ hrest.endsNumber)
  have hall : encode (b₁ ++ (raw ++ b₂)) ++ c :: rest =
      encode b₁ ++ (encode raw ++ (encode b₂ ++ c :: rest)) := by
    simp
  have hfirst : skipBlanks (encode b₁ ++ (encode raw ++ (encode b₂ ++ c :: rest))) =
      b :: (t ++ (encode b₂ ++ c :: rest)) := by
    rw [hoctets]
    exact skipBlanks_blanks_cons h₁ hblank _
  rw [hall]
  refine ⟨⟨b, _, hfirst, hclosing⟩, fun frame frames => ?_⟩
  rw [← skipFrom_skipBlanks hfirst, ← skipWithin_blanks h₂ hrest.isBlank, ← hvalue, hoctets]
  rfl

/-- What stands between the brackets of a list or an object, with these `Frame`'s brackets around it. -/
def Frame.around : Frame → List Char → List Char
  | .list, inner => '[' :: (inner ++ [']'])
  | .object, inner => '\x7b' :: (inner ++ ['\x7d'])

theorem encode_around (frame : Frame) (inner : List Char) : ∃ o, isBlank o = false ∧ o ≠ 0x5D ∧
    (∀ s, skipPiece o s = .ok (some frame, s)) ∧
    ∀ rest, encode (frame.around inner) ++ rest = o :: (encode inner ++ frame.closing :: rest) := by
  cases frame with
  | list =>
    refine ⟨0x5B, by decide, by decide, fun _ => rfl, fun rest => ?_⟩
    simp [Frame.around]
    rfl
  | object =>
    refine ⟨0x7B, by decide, by decide, fun _ => rfl, fun rest => ?_⟩
    simp [Frame.around]
    rfl

/-- A list or an object is passed over (`Skips`) if what is between its brackets is. -/
theorem skips_around {frame : Frame} {inner : List Char}
    (h : ∀ frames rest, skipWithin true (frame :: frames) (encode inner ++ frame.closing :: rest) =
      skipWithin false (frame :: frames) (frame.closing :: rest)) : Skips .value (frame.around inner) := by
  obtain ⟨o, hblank, hclosing, hopen, hencode⟩ := encode_around frame inner
  have hfirst := hencode []
  rw [List.append_nil] at hfirst
  refine ⟨⟨o, _, hfirst, hblank, hclosing⟩, fun frames rest _ => ?_⟩
  rw [hencode, skipFrom_open hblank (hopen _), h, skipWithin_closing]

theorem skips_empty (frame : Frame) {b : List Char} (h : Blanks b) : Skips .value (frame.around b) := by
  refine skips_around fun frames rest => ?_
  rw [skipWithin_blanks h (isBlank_closing frame), skipWithin_closing, skipWithin_closing]

theorem skips_list {raw : List Char} (h : Skips .elements raw) : Skips .value (Frame.list.around raw) := by
  refine skips_around fun frames rest => ?_
  obtain ⟨⟨b, t, hfirst, hclosing⟩, hskip⟩ := h 0x5D rest (.inr (.inl rfl))
  have hne : b ≠ Frame.list.closing := hclosing
  exact (skipWithin_fresh hfirst hne rfl).trans ((skipFrom_skipBlanks hfirst).trans (hskip frames))

theorem skips_object {raw : List Char} (h : Skips .members raw) :
    Skips .value (Frame.object.around raw) := by
  refine skips_around fun frames rest => ?_
  obtain ⟨t, after, hfirst, hkey, hskip⟩ := h 0x7D rest (.inr (.inr rfl))
  have hquote := hkey (0x22 :: t) (skipBlanks_cons (by decide) t)
  exact (skipWithin_fresh hfirst (by decide) hquote).trans (hskip frames)

theorem skips_moreElements {raw raws : List Char} (h : Skips .element raw) (more : Skips .elements raws) :
    Skips .elements (raw ++ ',' :: raws) := by
  intro b rest hrest
  obtain ⟨hfirst, hskip⟩ := h 0x2C (encode raws ++ b :: rest) (.inl rfl)
  have hall : encode (raw ++ ',' :: raws) ++ b :: rest =
      encode raw ++ 0x2C :: (encode raws ++ b :: rest) := by
    simp
    rfl
  rw [hall]
  refine ⟨hfirst, fun frames => ?_⟩
  rw [hskip, skipWithin_comma rfl, (more b rest hrest).2]

theorem skips_oneMember {b₁ key b₂ raw : List Char} (h₁ : Blanks b₁) (hkey : TextBody key)
    (h₂ : Blanks b₂) (h : Skips .element raw) :
    Skips .members (b₁ ++ '"' :: (key ++ '"' :: (b₂ ++ ':' :: raw))) := by
  intro b rest hrest
  obtain ⟨-, hskip⟩ := h b rest hrest
  have hall : encode (b₁ ++ '"' :: (key ++ '"' :: (b₂ ++ ':' :: raw))) ++ b :: rest =
      encode b₁ ++ 0x22 :: (encode key ++ 0x22 :: (encode b₂ ++ 0x3A :: (encode raw ++ b :: rest))) := by
    simp
    rfl
  rw [hall]
  refine ⟨_, _, skipBlanks_blanks_cons h₁ (by decide) _, fun s hs => ?_, hskip .object⟩
  exact skipKey_object hs (skipText_body hkey _) (skipBlanks_blanks_cons h₂ (by decide) _)

theorem skips_moreMembers {raw raws : List Char} (h : Skips .members raw) (more : Skips .members raws) :
    Skips .members (raw ++ ',' :: raws) := by
  intro b rest hrest
  obtain ⟨t, after, hfirst, hkey, hskip⟩ := h 0x2C (encode raws ++ b :: rest) (.inl rfl)
  obtain ⟨t', after', hfirst', hkey', hskip'⟩ := more b rest hrest
  have hall : encode (raw ++ ',' :: raws) ++ b :: rest =
      encode raw ++ 0x2C :: (encode raws ++ b :: rest) := by
    simp
    rfl
  rw [hall]
  refine ⟨t, after, hfirst, hkey, fun frames => ?_⟩
  rw [hskip, skipWithin_comma (hkey' _ hfirst'), hskip']

/-- What conforms to the grammar is passed over, by induction on `Conforms`. -/
theorem skips_of_conforms {part : Part} {raw : List Char} (h : Conforms part raw) : Skips part raw := by
  induction h with
  | null => exact skips_piece rfl (by decide) fun rest _ => rfl
  | yes => exact skips_piece rfl (by decide) fun rest _ => rfl
  | no => exact skips_piece rfl (by decide) fun rest _ => rfl
  | number hw hf he => exact skips_number hw hf he
  | negative hw hf he => exact skips_negative hw hf he
  | text h => exact skips_text h
  | emptyList h => exact skips_empty .list h
  | list h ih => exact skips_list ih
  | emptyObject h => exact skips_empty .object h
  | object h ih => exact skips_object ih
  | element h₁ h h₂ ih => exact skips_element h₁ ih h₂
  | oneElement h ih => exact fun b rest hrest => ⟨(ih b rest hrest).1, (ih b rest hrest).2 .list⟩
  | moreElements h more ih ihs => exact skips_moreElements ih ihs
  | oneMember h₁ hkey h₂ h ih => exact skips_oneMember h₁ hkey h₂ ih
  | moreMembers h more ih ihs => exact skips_moreMembers ih ihs

/-- **A value of any kind is passed over by `skipValue`,** and what follows it is left. -/
theorem skipValue_conforms {raw : List Char} (h : Conforms .value raw) {rest : List UInt8}
    (hrest : EndsNumber rest) : skipValue (encode raw ++ rest) = .ok rest := by
  rw [skipValue, (skips_of_conforms h).2 [] rest hrest, skipWithin]

end VolumeDriver.Json
