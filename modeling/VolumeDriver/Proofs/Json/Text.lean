import VolumeDriver.Json.Scan
import VolumeDriver.Json.Value
import VolumeDriver.Proofs.Text.Utf8
set_option autoImplicit false

/-! # JSON strings read back

JSON leaves its writers choices: a character of a string may stand for itself or be escaped by letter, by
number or, beyond U+FFFF, by a surrogate pair. The spellings are said here without the reader, character by
character, and the reader is shown to read each of them as what it spells: an escape as a whole, and the
octets of any other character one by one, none of which means anything to JSON. What is written is one of the
spellings, and is therefore read back. -/

namespace VolumeDriver.Json

open Utf8

/-! ## Spellings -/

/-- `c` is the hexadecimal digit of `n`, in either case. -/
def IsHexDigit (n : Nat) (c : Char) : Prop :=
  n < 16 ∧ (c = Nat.digitChar n ∨ c = (Nat.digitChar n).toUpper)

instance (n : Nat) (c : Char) : Decidable (IsHexDigit n c) :=
  inferInstanceAs (Decidable (_ ∧ _))

/-- Four hexadecimal digits of a number, each one `IsHexDigit`. -/
inductive HexFour (n : Nat) : List Char → Prop
  | mk {p q r s : Char} (hp : IsHexDigit (n / 0x1000) p) (hq : IsHexDigit (n / 0x100 % 0x10) q)
      (hr : IsHexDigit (n / 0x10 % 0x10) r) (hs : IsHexDigit (n % 0x10) s) : HexFour n [p, q, r, s]

/-- The letters of escapes and the characters they stand for. -/
def letterEscapes : List (Char × Char) :=
  [('"', '"'), ('\\', '\\'), ('/', '/'), ('b', '\x08'), ('f', '\x0c'), ('n', '\n'), ('r', '\r'),
    ('t', '\t')]

/-- What may be written for a character inside a string: itself, the letter of its escape (`letterEscapes`),
    or its number. -/
inductive CharSpelling (c : Char) : List Char → Prop
  | plain (hlow : 0x20 ≤ c.toNat) (hquote : c ≠ '"') (hslash : c ≠ '\\') : CharSpelling c [c]
  | letter {l : Char} (h : (l, c) ∈ letterEscapes) : CharSpelling c ['\\', l]
  | number {digits : List Char} (h : HexFour c.toNat digits) : CharSpelling c ('\\' :: 'u' :: digits)
  /-- Each half of the pair is an escape by number of ten bits of what is beyond U+FFFF. -/
  | pair {high low : List Char} (hc : 0x10000 ≤ c.toNat)
      (hhigh : HexFour (0xD800 + (c.toNat - 0x10000) / 0x400) high)
      (hlow : HexFour (0xDC00 + (c.toNat - 0x10000) % 0x400) low) :
      CharSpelling c ('\\' :: 'u' :: (high ++ '\\' :: 'u' :: low))

/-- What may be written for a text between its quotes: a `CharSpelling` of each character. -/
inductive TextSpelling : List Char → List Char → Prop
  | nil : TextSpelling [] []
  | cons {c : Char} {s raw raws : List Char} (h : CharSpelling c raw) (more : TextSpelling s raws) :
      TextSpelling (c :: s) (raw ++ raws)

/-- Whether a character may stand for itself. -/
def needsNoEscape (c : Char) : Bool :=
  0x20 ≤ c.toNat && c ≠ '"' && c ≠ '\\'

/-- A text that needs no escape (`needsNoEscape`) may be written as it is. -/
theorem TextSpelling.plain {s : List Char} (h : s.all needsNoEscape = true) : TextSpelling s s := by
  induction s with
  | nil => exact .nil
  | cons c s ih =>
    obtain ⟨hc, hs⟩ : needsNoEscape c = true ∧ s.all needsNoEscape = true := by
      simpa only [List.all_cons, Bool.and_eq_true] using h
    obtain ⟨⟨hlow, hquote⟩, hslash⟩ : (0x20 ≤ c.toNat ∧ c ≠ '"') ∧ c ≠ '\\' := by
      simpa [needsNoEscape] using hc
    exact .cons (.plain hlow hquote hslash) (ih hs)

theorem TextSpelling.append {s t raw raw' : List Char} (h : TextSpelling s raw)
    (h' : TextSpelling t raw') : TextSpelling (s ++ t) (raw ++ raw') := by
  induction h with
  | nil => exact h'
  | cons h _ ih =>
    rw [List.append_assoc]
    exact .cons h ih

/-! ## Octets that stand for themselves -/

/-- Whether an octet stands for itself inside a string. -/
def isPlain (b : UInt8) : Prop :=
  b ≠ 0x22 ∧ b ≠ 0x5C ∧ ¬b < 0x20

theorem textOctets_plain {b : UInt8} (h : isPlain b) {s more rest : List UInt8}
    (hs : textOctets s = .ok (more, rest)) : textOctets (b :: s) = .ok (b :: more, rest) := by
  rw [textOctets, if_neg h.1, if_neg h.2.1, if_neg h.2.2, hs]

theorem textOctets_plains {bs : List UInt8} (h : ∀ b ∈ bs, isPlain b) {s more rest : List UInt8}
    (hs : textOctets s = .ok (more, rest)) : textOctets (bs ++ s) = .ok (bs ++ more, rest) := by
  induction bs with
  | nil => exact hs
  | cons b bs ih =>
    have htail := ih fun b hb => h b (List.mem_cons_of_mem _ hb)
    exact textOctets_plain (h b List.mem_cons_self) htail

theorem textOctets_escape (escape : List UInt8) {s octets more rest : List UInt8}
    (he : escaped (escape ++ s) = .ok (octets, escape.length))
    (hs : textOctets s = .ok (more, rest)) :
    textOctets (0x5C :: (escape ++ s)) = .ok (octets ++ more, rest) := by
  rw [textOctets, if_neg (by decide), if_pos rfl, he]
  simp only [List.drop_left, hs]

/-- An octet that is a small number is plain if the number is. -/
theorem isPlain_toUInt8 {n : Nat} (h : n < 256) (hlow : 0x20 ≤ n) (hquote : n ≠ 0x22)
    (hslash : n ≠ 0x5C) : isPlain n.toUInt8 := by
  have hn := toNat_toUInt8 h
  refine ⟨fun he => hquote ?_, fun he => hslash ?_, ?_⟩
  · rw [← hn, he]
    rfl
  · rw [← hn, he]
    rfl
  · rw [UInt8.lt_iff_toNat_lt, hn]
    simp
    omega

/-- The octets of a character that has no escape are plain. -/
theorem isPlain_encodeChar {c : Char} (hlow : 0x20 ≤ c.toNat) (hquote : c.toNat ≠ 0x22)
    (hslash : c.toNat ≠ 0x5C) : ∀ b ∈ encodeChar c, isPlain b := by
  have hbounds := toNat_bounds c
  rw [encodeChar]
  generalize c.toNat = n at *
  intro b hb
  split at hb
  · obtain rfl := List.mem_singleton.1 hb
    exact isPlain_toUInt8 (by omega) hlow hquote hslash
  · split at hb
    · simp only [List.mem_cons, List.not_mem_nil, or_false] at hb
      rcases hb with rfl | rfl <;> exact isPlain_toUInt8 (by omega) (by omega) (by omega) (by omega)
    · split at hb
      · simp only [List.mem_cons, List.not_mem_nil, or_false] at hb
        rcases hb with rfl | rfl | rfl <;>
          exact isPlain_toUInt8 (by omega) (by omega) (by omega) (by omega)
      · simp only [List.mem_cons, List.not_mem_nil, or_false] at hb
        rcases hb with rfl | rfl | rfl | rfl <;>
          exact isPlain_toUInt8 (by omega) (by omega) (by omega) (by omega)

theorem encodeChar_ascii {c : Char} (h : c.toNat < 0x80) : encodeChar c = [c.toNat.toUInt8] :=
  if_pos h

/-! ## Escapes by number -/

theorem hexDigit?_of_isHexDigit {n : Nat} {c : Char} (h : IsHexDigit n c) :
    hexDigit? c.toNat.toUInt8 = some n ∧ c.toNat < 0x80 := by
  obtain ⟨hn, hc⟩ := h
  rcases hc with rfl | rfl
  all_goals
    revert n
    decide

/-- The digits are read by `hexFour` as the number they are of. -/
theorem hexFour_digits {n : Nat} {digits : List Char} (h : HexFour n digits) (s : List UInt8) :
    hexFour (encode digits ++ s) = .ok n ∧ (encode digits).length = 4 := by
  obtain ⟨hp, hq, hr, hs⟩ := h
  obtain ⟨hp, hp'⟩ := hexDigit?_of_isHexDigit hp
  obtain ⟨hq, hq'⟩ := hexDigit?_of_isHexDigit hq
  obtain ⟨hr, hr'⟩ := hexDigit?_of_isHexDigit hr
  obtain ⟨hs, hs'⟩ := hexDigit?_of_isHexDigit hs
  simp only [encode_cons, encode_nil, encodeChar_ascii hp', encodeChar_ascii hq', encodeChar_ascii hr',
    encodeChar_ascii hs', List.cons_append, List.nil_append, hexFour, hp, hq, hr, hs]
  refine ⟨congrArg Except.ok ?_, rfl⟩
  omega

theorem numberedEscape_number {c : Char} {digits : List Char} (h : HexFour c.toNat digits)
    (s : List UInt8) : numberedEscape (encode digits ++ s) = .ok (c, 4) := by
  have hbounds := toNat_bounds c
  have htrailing : isTrailing c.toNat = false := by
    simp [isTrailing]
    omega
  have hleading : isLeading c.toNat = false := by
    simp [isLeading]
    omega
  simp [numberedEscape, (hexFour_digits h s).1, htrailing, hleading, bind, Except.bind, pure,
    Except.pure]

theorem numberedEscape_pair {c : Char} {high low : List Char} (hc : 0x10000 ≤ c.toNat)
    (hhigh : HexFour (0xD800 + (c.toNat - 0x10000) / 0x400) high)
    (hlow : HexFour (0xDC00 + (c.toNat - 0x10000) % 0x400) low) (s : List UInt8) :
    numberedEscape (encode high ++ 0x5C :: 0x75 :: (encode low ++ s)) = .ok (c, 10) := by
  have hbounds := toNat_bounds c
  obtain ⟨hreads, hlength⟩ := hexFour_digits hhigh (0x5C :: 0x75 :: (encode low ++ s))
  have hreads' := (hexFour_digits hlow s).1
  have hafter : (encode high ++ 0x5C :: 0x75 :: (encode low ++ s)).drop 4 =
      0x5C :: 0x75 :: (encode low ++ s) := by
    rw [← hlength, List.drop_left]
  have htrailing : isTrailing (0xD800 + (c.toNat - 0x10000) / 0x400) = false := by
    simp [isTrailing]
    omega
  have hleading : isLeading (0xD800 + (c.toNat - 0x10000) / 0x400) = true := by
    simp [isLeading]
    omega
  have htrailing' : isTrailing (0xDC00 + (c.toNat - 0x10000) % 0x400) = true := by
    simp [isTrailing]
    omega
  have hnumber : 0x10000 + (c.toNat - 0x10000) / 0x400 * 0x400 + (c.toNat - 0x10000) % 0x400 =
      c.toNat := by omega
  have hchar := congrArg Char.ofNat hnumber
  simpa [numberedEscape, hreads, hafter, htrailing, hleading, hreads', htrailing', bind, Except.bind,
    pure, Except.pure] using hchar

/-! ## Characters and strings -/

theorem length_digits {n : Nat} {digits : List Char} (h : HexFour n digits) :
    (encode digits).length = 4 :=
  (hexFour_digits h []).2

theorem escaped_letter {l c : Char} (h : (l, c) ∈ letterEscapes) (s : List UInt8) :
    escaped (encode [l] ++ s) = .ok (encodeChar c, (encode [l]).length) := by
  simp only [letterEscapes, List.mem_cons, Prod.mk.injEq, List.not_mem_nil, or_false] at h
  rcases h with ⟨rfl, rfl⟩ | ⟨rfl, rfl⟩ | ⟨rfl, rfl⟩ | ⟨rfl, rfl⟩ | ⟨rfl, rfl⟩ | ⟨rfl, rfl⟩ | ⟨rfl, rfl⟩ |
    ⟨rfl, rfl⟩ <;> rfl

theorem escaped_number {s : List UInt8} {c : Char} {width : Nat}
    (h : numberedEscape s = .ok (c, width)) :
    escaped (0x75 :: s) = .ok (encodeChar c, width + 1) := by
  rw [escaped]
  simp [h]

/-- Every `CharSpelling` of a character is read by `textOctets` as the character. -/
theorem textOctets_spelling {c : Char} {raw : List Char} (h : CharSpelling c raw)
    {s more rest : List UInt8} (hs : textOctets s = .ok (more, rest)) :
    textOctets (encode raw ++ s) = .ok (encodeChar c ++ more, rest) := by
  cases h with
  | plain hlow hquote hslash =>
    rw [encode_cons, encode_nil, List.append_nil]
    exact textOctets_plains (isPlain_encodeChar hlow (fun h => hquote (Char.toNat_inj.1 h))
      fun h => hslash (Char.toNat_inj.1 h)) hs
  | letter h => exact textOctets_escape _ (escaped_letter h s) hs
  | @number digits h =>
    have hlength : (encode ('u' :: digits)).length = 5 := by
      simp [length_digits h, encodeChar]
    have he := escaped_number (numberedEscape_number h s)
    exact textOctets_escape (encode ('u' :: digits)) (hlength ▸ he) hs
  | @pair high low hc hhigh hlow =>
    have hlength : (encode ('u' :: (high ++ '\\' :: 'u' :: low))).length = 11 := by
      simp [length_digits hhigh, length_digits hlow, encodeChar]
    have he := escaped_number (numberedEscape_pair hc hhigh hlow s)
    refine textOctets_escape (encode ('u' :: (high ++ '\\' :: 'u' :: low))) ?_ hs
    rw [hlength, ← he]
    simp
    rfl

theorem textOctets_textSpelling {s raw : List Char} (h : TextSpelling s raw) (rest : List UInt8) :
    textOctets (encode raw ++ 0x22 :: rest) = .ok (encode s, rest) := by
  induction h with
  | nil =>
    show textOctets (0x22 :: rest) = .ok ([], rest)
    rw [textOctets, if_pos rfl]
  | cons h _ ih =>
    rw [encode_append, List.append_assoc]
    exact textOctets_spelling h ih

/-- **Every `TextSpelling` of a text is read by `readText` as the text.** -/
theorem readText_spelling {s : String} {raw : List Char} (h : TextSpelling s.toList raw)
    (rest : List UInt8) : readText (encode raw ++ 0x22 :: rest) = .ok (s, rest) := by
  have htext : toText? (encode s.toList) = some s := toText?_octets s
  rw [readText, textOctets_textSpelling h]
  simp only [htext]

/-! ## What is written -/

theorem digitChar_eq_of_lt {n : Nat} (h : n < 16) : Numeral.digitChar n = Nat.digitChar n := by
  revert n
  decide

/-- What `escape` writes for a character is one of its spellings. -/
theorem charSpelling_escape (c : Char) : CharSpelling c (escape c) := by
  rw [escape]
  -- In the order in which the writer tells the characters apart.
  by_cases hquote : c = '"'
  · rw [if_pos hquote, hquote]
    exact .letter (by decide)
  rw [if_neg hquote]
  by_cases hslash : c = '\\'
  · rw [if_pos hslash, hslash]
    exact .letter (by decide)
  rw [if_neg hslash]
  by_cases hb : c = '\x08'
  · rw [if_pos hb, hb]
    exact .letter (by decide)
  rw [if_neg hb]
  by_cases hf : c = '\x0c'
  · rw [if_pos hf, hf]
    exact .letter (by decide)
  rw [if_neg hf]
  by_cases hn : c = '\n'
  · rw [if_pos hn, hn]
    exact .letter (by decide)
  rw [if_neg hn]
  by_cases hr : c = '\r'
  · rw [if_pos hr, hr]
    exact .letter (by decide)
  rw [if_neg hr]
  by_cases ht : c = '\t'
  · rw [if_pos ht, ht]
    exact .letter (by decide)
  rw [if_neg ht]
  by_cases hcontrol : c < ' '
  · have hlow : c.toNat < 0x20 := hcontrol
    rw [if_pos hcontrol, digitChar_eq_of_lt (n := c.toNat / 16) (by omega),
      digitChar_eq_of_lt (n := c.toNat % 16) (by omega)]
    refine .number (.mk ?_ ?_ ⟨by omega, .inl ?_⟩ ⟨by omega, .inl rfl⟩)
    · rw [show c.toNat / 0x1000 = 0 by omega]
      decide
    · rw [show c.toNat / 0x100 % 0x10 = 0 by omega]
      decide
    · rw [show c.toNat / 0x10 % 0x10 = c.toNat / 16 by omega]
  · rw [if_neg hcontrol]
    exact .plain (Nat.le_of_not_lt hcontrol) hquote hslash

theorem textSpelling_escape (s : List Char) : TextSpelling s (s.flatMap escape) := by
  induction s with
  | nil => exact .nil
  | cons c s ih => exact .cons (charSpelling_escape c) ih

/-- **A string is read back** by `readText` as it was written. -/
theorem readText_render (s : String) (rest : List UInt8) :
    readText (encode (s.toList.flatMap escape ++ ['"']) ++ rest) = .ok (s, rest) := by
  rw [encode_append, List.append_assoc]
  exact readText_spelling (textSpelling_escape s.toList) rest

end VolumeDriver.Json
