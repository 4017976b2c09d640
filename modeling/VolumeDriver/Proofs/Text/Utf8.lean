import Mathlib.Tactic.SplitIfs
import VolumeDriver.Text.Utf8
set_option autoImplicit false

/-! # UTF-8 read back

The octets of a text (`Utf8.encode`) are UTF-8, and what they spell is that text: each character's octets
(`encodeChar`) have that character, and nothing else, in front (`head`). Nothing else is UTF-8, since a
character that is read has no octets but its own. The octets also tell which of two texts comes first. -/

namespace VolumeDriver.Utf8

@[simp] theorem encode_nil : encode [] = [] :=
  rfl

@[simp] theorem encode_cons (c : Char) (s : List Char) : encode (c :: s) = encodeChar c ++ encode s :=
  rfl

@[simp] theorem encode_append (s t : List Char) : encode (s ++ t) = encode s ++ encode t := by
  simp [encode]

/-- The octet of a small number is that number. -/
theorem toNat_toUInt8 {n : Nat} (h : n < 256) : n.toUInt8.toNat = n := by
  simp [Nat.toUInt8, UInt8.toNat_ofNat', Nat.mod_eq_of_lt h]

/-- A number that an octet has is that octet. -/
theorem toUInt8_eq {n : Nat} {b : UInt8} (h : n = b.toNat) : n.toUInt8 = b := by
  rw [h]
  exact UInt8.toNat_inj.1 (toNat_toUInt8 b.toNat_lt)

/-- Characters are not surrogates and lie below U+110000. -/
theorem toNat_bounds (c : Char) : c.toNat < 0xD800 ∨ 0xDFFF < c.toNat ∧ c.toNat < 0x110000 := by
  have h := c.valid
  simpa [UInt32.isValidChar, Nat.isValidChar] using h

theorem ofNat_toNat (c : Char) : Char.ofNat c.toNat = c := by
  simp

/-- Comparing octets is comparing numbers. -/
theorem toUInt8_bounds {n : Nat} (h : n < 256) (low high : UInt8) :
    (decide (low ≤ n.toUInt8) && decide (n.toUInt8 ≤ high)) =
      (decide (low.toNat ≤ n) && decide (n ≤ high.toNat)) := by
  simp only [UInt8.le_iff_toNat_le, toNat_toUInt8 h]

theorem isContinuation_toUInt8 {n : Nat} (h : n < 0x40) :
    isContinuation (0x80 + n).toUInt8 = true := by
  rw [isContinuation, toUInt8_bounds (by omega)]
  simp
  omega

theorem low_toUInt8 {n : Nat} (h : n < 0x40) : low (0x80 + n).toUInt8 = n := by
  rw [low, toNat_toUInt8 (by omega)]
  omega

theorem head_one {n : Nat} (h : n < 0x80) (rest : List UInt8) :
    head n.toUInt8 rest = .char (Char.ofNat n) rest := by
  have ha := toNat_toUInt8 (n := n) (by omega)
  rw [head, if_pos (by rw [UInt8.lt_iff_toNat_lt, ha]; exact h), ha]

theorem head_two {n : Nat} (h₁ : 0x80 ≤ n) (h₂ : n < 0x800) (rest : List UInt8) :
    head (0xC0 + n / 0x40).toUInt8 ((0x80 + n % 0x40).toUInt8 :: rest) =
      .char (Char.ofNat n) rest := by
  have ha := toNat_toUInt8 (n := 0xC0 + n / 0x40) (by omega)
  have hb := low_toUInt8 (n := n % 0x40) (by omega)
  rw [head, if_neg (by rw [UInt8.lt_iff_toNat_lt, ha]; simp; omega), toUInt8_bounds (by omega),
    if_pos (by simp; omega), headTwo, if_pos (isContinuation_toUInt8 (by omega)), ha, hb]
  congr
  omega

theorem head_three {n : Nat} (h₁ : 0x800 ≤ n) (h₂ : n < 0x10000)
    (h₃ : n < 0xD800 ∨ 0xDFFF < n) (rest : List UInt8) :
    head (0xE0 + n / 0x1000).toUInt8
        ((0x80 + n / 0x40 % 0x40).toUInt8 :: (0x80 + n % 0x40).toUInt8 :: rest) =
      .char (Char.ofNat n) rest := by
  have ha := toNat_toUInt8 (n := 0xE0 + n / 0x1000) (by omega)
  have hb := low_toUInt8 (n := n / 0x40 % 0x40) (by omega)
  have hc := low_toUInt8 (n := n % 0x40) (by omega)
  have hfollow : mayFollowThree (0xE0 + n / 0x1000).toUInt8 (0x80 + n / 0x40 % 0x40).toUInt8 := by
    simp only [mayFollowThree, ← UInt8.toNat_inj, ha,
      toUInt8_bounds (n := 0x80 + n / 0x40 % 0x40) (by omega),
      isContinuation_toUInt8 (n := n / 0x40 % 0x40) (by omega)]
    split
    · simp at *
      omega
    · split
      · simp at *
        omega
      · rfl
  rw [head, if_neg (by rw [UInt8.lt_iff_toNat_lt, ha]; simp; omega),
    toUInt8_bounds (by omega), if_neg (by simp; omega), toUInt8_bounds (by omega),
    if_pos (by simp; omega), headThree, if_pos hfollow]
  rw [if_pos (isContinuation_toUInt8 (by omega)), ha, hb, hc]
  congr
  omega

theorem head_four {n : Nat} (h₁ : 0x10000 ≤ n) (h₂ : n < 0x110000) (rest : List UInt8) :
    head (0xF0 + n / 0x40000).toUInt8
        ((0x80 + n / 0x1000 % 0x40).toUInt8 :: (0x80 + n / 0x40 % 0x40).toUInt8 ::
          (0x80 + n % 0x40).toUInt8 :: rest) =
      .char (Char.ofNat n) rest := by
  have ha := toNat_toUInt8 (n := 0xF0 + n / 0x40000) (by omega)
  have hb := low_toUInt8 (n := n / 0x1000 % 0x40) (by omega)
  have hc := low_toUInt8 (n := n / 0x40 % 0x40) (by omega)
  have hd := low_toUInt8 (n := n % 0x40) (by omega)
  have hfollow : mayFollowFour (0xF0 + n / 0x40000).toUInt8 (0x80 + n / 0x1000 % 0x40).toUInt8 := by
    simp only [mayFollowFour, ← UInt8.toNat_inj, ha,
      toUInt8_bounds (n := 0x80 + n / 0x1000 % 0x40) (by omega),
      isContinuation_toUInt8 (n := n / 0x1000 % 0x40) (by omega)]
    split
    · simp at *
      omega
    · split
      · simp at *
        omega
      · rfl
  rw [head, if_neg (by rw [UInt8.lt_iff_toNat_lt, ha]; simp; omega),
    toUInt8_bounds (by omega), if_neg (by simp; omega), toUInt8_bounds (by omega),
    if_neg (by simp; omega), toUInt8_bounds (by omega), if_pos (by simp; omega), headFour,
    if_pos hfollow]
  rw [if_pos (isContinuation_toUInt8 (by omega))]
  rw [if_pos (isContinuation_toUInt8 (by omega)), ha, hb, hc, hd]
  congr
  omega

/-- The character that `head` finds in front of a character's octets is that character. -/
theorem head_encodeChar (c : Char) (rest : List UInt8) :
    ∃ a t, encodeChar c ++ rest = a :: t ∧ head a t = .char c rest := by
  have hbounds := toNat_bounds c
  have hchar := ofNat_toNat c
  rw [encodeChar]
  generalize c.toNat = n at hbounds hchar
  subst hchar
  by_cases h₁ : n < 0x80
  · rw [if_pos h₁]
    exact ⟨_, _, rfl, head_one h₁ rest⟩
  rw [if_neg h₁]
  by_cases h₂ : n < 0x800
  · rw [if_pos h₂]
    exact ⟨_, _, rfl, head_two (by omega) h₂ rest⟩
  rw [if_neg h₂]
  by_cases h₃ : n < 0x10000
  · rw [if_pos h₃]
    exact ⟨_, _, rfl, head_three (by omega) h₃ (by omega) rest⟩
  · rw [if_neg h₃]
    exact ⟨_, _, rfl, head_four (by omega) (by omega) rest⟩

theorem decodeFrom_encode (s : List Char) (offset : Nat) : decodeFrom offset (encode s) = .ok s := by
  induction s generalizing offset with
  | nil => rw [encode_nil, decodeFrom]
  | cons c s ih =>
    obtain ⟨a, t, ht, hhead⟩ := head_encodeChar c (encode s)
    rw [encode_cons, ht, decodeFrom]
    split
    · rename_i heq
      rw [hhead] at heq
      cases heq
      rw [ih]
      rfl
    · rename_i heq
      rw [hhead] at heq
      cases heq
    · rename_i heq
      rw [hhead] at heq
      cases heq

/-- **What the octets of a text spell is that text:** `decode` takes `encode` back. -/
theorem decode_encode (s : List Char) : decode (encode s) = .ok s :=
  decodeFrom_encode s 0

theorem toText?_octets (s : String) : toText? (octets s) = some s := by
  rw [toText?, octets, decode_encode]
  simp

/-! ## What is read was written -/

theorem toNat_ofNat {n : Nat} (h : n < 0xD800 ∨ 0xDFFF < n ∧ n < 0x110000) :
    (Char.ofNat n).toNat = n := by
  rw [Char.ofNat, dif_pos h]
  rfl

theorem encodeChar_one {n : Nat} (h : n < 0x80) : encodeChar (Char.ofNat n) = [n.toUInt8] := by
  simp only [encodeChar, toNat_ofNat (n := n) (by omega)]
  rw [if_pos h]

theorem encodeChar_two {n : Nat} (h₁ : 0x80 ≤ n) (h₂ : n < 0x800) :
    encodeChar (Char.ofNat n) = [(0xC0 + n / 0x40).toUInt8, (0x80 + n % 0x40).toUInt8] := by
  simp only [encodeChar, toNat_ofNat (n := n) (by omega)]
  rw [if_neg (by omega), if_pos h₂]

theorem encodeChar_three {n : Nat} (h₁ : 0x800 ≤ n) (h₂ : n < 0x10000)
    (h₃ : n < 0xD800 ∨ 0xDFFF < n) :
    encodeChar (Char.ofNat n) =
      [(0xE0 + n / 0x1000).toUInt8, (0x80 + n / 0x40 % 0x40).toUInt8, (0x80 + n % 0x40).toUInt8] := by
  simp only [encodeChar, toNat_ofNat (n := n) (by omega)]
  rw [if_neg (by omega), if_neg (by omega), if_pos h₂]

theorem encodeChar_four {n : Nat} (h₁ : 0x10000 ≤ n) (h₂ : n < 0x110000) :
    encodeChar (Char.ofNat n) =
      [(0xF0 + n / 0x40000).toUInt8, (0x80 + n / 0x1000 % 0x40).toUInt8,
        (0x80 + n / 0x40 % 0x40).toUInt8, (0x80 + n % 0x40).toUInt8] := by
  simp only [encodeChar, toNat_ofNat (n := n) (by omega)]
  rw [if_neg (by omega), if_neg (by omega), if_neg (by omega)]

theorem between_iff {low high b : UInt8} :
    (decide (low ≤ b) && decide (b ≤ high)) = true ↔ low.toNat ≤ b.toNat ∧ b.toNat ≤ high.toNat := by
  simp [UInt8.le_iff_toNat_le]

/-- A continuation octet is its six low bits (`low`) after the two that mark it. -/
theorem low_of_isContinuation {b : UInt8} (h : isContinuation b = true) :
    low b < 0x40 ∧ 0x80 + low b = b.toNat := by
  have hb : 0x80 ≤ b.toNat ∧ b.toNat ≤ 0xBF := between_iff.1 h
  unfold low
  omega

/-- What may follow the first of three octets is a continuation octet; with it they make no surrogate and
    nothing that fits two octets. -/
theorem of_mayFollowThree {a b : UInt8} (ha : 0xE0 ≤ a.toNat ∧ a.toNat ≤ 0xEF)
    (h : mayFollowThree a b = true) :
    low b < 0x40 ∧ 0x80 + low b = b.toNat ∧ 0x20 ≤ a.toNat % 0x10 * 0x40 + low b ∧
      (a.toNat % 0x10 * 0x40 + low b < 0x360 ∨ 0x37F < a.toNat % 0x10 * 0x40 + low b) := by
  unfold mayFollowThree at h
  split at h
  · rename_i ha'
    have hb : 0xA0 ≤ b.toNat ∧ b.toNat ≤ 0xBF := between_iff.1 h
    have hlow := low_of_isContinuation (b := b) (between_iff.2 ⟨Nat.le_trans (by decide) hb.1, hb.2⟩)
    rw [ha', show (0xE0 : UInt8).toNat = 0xE0 from rfl]
    omega
  · rename_i ha'
    have hfirst : a.toNat ≠ 0xE0 := fun heq => ha' (UInt8.toNat_inj.1 heq)
    split at h
    · rename_i ha''
      have hb : 0x80 ≤ b.toNat ∧ b.toNat ≤ 0x9F := between_iff.1 h
      have hlow := low_of_isContinuation (b := b) (between_iff.2 ⟨hb.1, Nat.le_trans hb.2 (by decide)⟩)
      rw [ha'', show (0xED : UInt8).toNat = 0xED from rfl]
      omega
    · rename_i ha''
      have hfirst' : a.toNat ≠ 0xED := fun heq => ha'' (UInt8.toNat_inj.1 heq)
      have hlow := low_of_isContinuation h
      omega

/-- What may follow the first of four octets is a continuation octet; with it they make nothing that fits
    three octets and nothing above the last character. -/
theorem of_mayFollowFour {a b : UInt8} (ha : 0xF0 ≤ a.toNat ∧ a.toNat ≤ 0xF4)
    (h : mayFollowFour a b = true) :
    low b < 0x40 ∧ 0x80 + low b = b.toNat ∧ 0x10 ≤ a.toNat % 0x8 * 0x40 + low b ∧
      a.toNat % 0x8 * 0x40 + low b < 0x110 := by
  unfold mayFollowFour at h
  split at h
  · rename_i ha'
    have hb : 0x90 ≤ b.toNat ∧ b.toNat ≤ 0xBF := between_iff.1 h
    have hlow := low_of_isContinuation (b := b) (between_iff.2 ⟨Nat.le_trans (by decide) hb.1, hb.2⟩)
    rw [ha', show (0xF0 : UInt8).toNat = 0xF0 from rfl]
    omega
  · rename_i ha'
    have hfirst : a.toNat ≠ 0xF0 := fun heq => ha' (UInt8.toNat_inj.1 heq)
    split at h
    · rename_i ha''
      have hb : 0x80 ≤ b.toNat ∧ b.toNat ≤ 0x8F := between_iff.1 h
      have hlow := low_of_isContinuation (b := b) (between_iff.2 ⟨hb.1, Nat.le_trans hb.2 (by decide)⟩)
      rw [ha'', show (0xF4 : UInt8).toNat = 0xF4 from rfl]
      omega
    · rename_i ha''
      have hfirst' : a.toNat ≠ 0xF4 := fun heq => ha'' (UInt8.toNat_inj.1 heq)
      have hlow := low_of_isContinuation h
      omega

theorem encodeChar_of_headTwo {a : UInt8} {s rest : List UInt8} {c : Char}
    (ha : 0xC2 ≤ a.toNat ∧ a.toNat ≤ 0xDF) (h : headTwo a s = .char c rest) :
    encodeChar c ++ rest = a :: s := by
  unfold headTwo at h
  split at h
  · cases h
  · rename_i b _
    split at h
    · rename_i hb
      have hlow := low_of_isContinuation hb
      cases h
      rw [encodeChar_two (by omega) (by omega), toUInt8_eq (b := a) (by omega),
        toUInt8_eq (b := b) (by omega)]
      rfl
    · cases h

theorem encodeChar_of_headThree {a : UInt8} {s rest : List UInt8} {c : Char}
    (ha : 0xE0 ≤ a.toNat ∧ a.toNat ≤ 0xEF) (h : headThree a s = .char c rest) :
    encodeChar c ++ rest = a :: s := by
  unfold headThree at h
  split at h
  · cases h
  · rename_i b _
    split at h
    · rename_i hb
      have hlow := of_mayFollowThree ha hb
      split at h
      · cases h
      · rename_i c _
        split at h
        · rename_i hc
          have hlow' := low_of_isContinuation hc
          cases h
          rw [encodeChar_three (by omega) (by omega) (by omega), toUInt8_eq (b := a) (by omega),
            toUInt8_eq (b := b) (by omega), toUInt8_eq (b := c) (by omega)]
          rfl
        · cases h
    · cases h

theorem encodeChar_of_headFour {a : UInt8} {s rest : List UInt8} {c : Char}
    (ha : 0xF0 ≤ a.toNat ∧ a.toNat ≤ 0xF4) (h : headFour a s = .char c rest) :
    encodeChar c ++ rest = a :: s := by
  unfold headFour at h
  split at h
  · cases h
  · rename_i b _
    split at h
    · rename_i hb
      have hlow := of_mayFollowFour ha hb
      split at h
      · cases h
      · rename_i c _
        split at h
        · rename_i hc
          have hlow' := low_of_isContinuation hc
          split at h
          · cases h
          · rename_i d _
            split at h
            · rename_i hd
              have hlow'' := low_of_isContinuation hd
              cases h
              rw [encodeChar_four (by omega) (by omega), toUInt8_eq (b := a) (by omega),
                toUInt8_eq (b := b) (by omega), toUInt8_eq (b := c) (by omega),
                toUInt8_eq (b := d) (by omega)]
              rfl
            · cases h
        · cases h
    · cases h

/-- A character that `head` finds in front of some octets is there with its own octets. -/
theorem encodeChar_of_head {a : UInt8} {s rest : List UInt8} {c : Char}
    (h : head a s = .char c rest) : encodeChar c ++ rest = a :: s := by
  unfold head at h
  split at h
  · rename_i ha
    have ha' : a.toNat < 0x80 := UInt8.lt_iff_toNat_lt.1 ha
    cases h
    rw [encodeChar_one ha', toUInt8_eq rfl]
    rfl
  · split at h
    · rename_i ha
      exact encodeChar_of_headTwo (between_iff.1 ha) h
    · split at h
      · rename_i ha
        exact encodeChar_of_headThree (between_iff.1 ha) h
      · split at h
        · rename_i ha
          exact encodeChar_of_headFour (between_iff.1 ha) h
        · cases h

theorem encode_of_decodeFrom {offset : Nat} {s : List UInt8} {cs : List Char}
    (h : decodeFrom offset s = .ok cs) : encode cs = s := by
  fun_induction decodeFrom offset s generalizing cs with
  | case1 =>
    cases h
    rfl
  | case2 offset a s c rest hhead ih =>
    cases hmore : decodeFrom (offset + c.utf8Size) rest with
    | error f =>
      rw [hmore] at h
      cases h
    | ok more =>
      rw [hmore] at h
      cases h
      rw [encode_cons, ih hmore, encodeChar_of_head hhead]
  | case3 | case4 => cases h

/-- **What `decode` reads as UTF-8 is exactly the octets of a text.** -/
theorem decode_eq_ok_iff {s : List UInt8} {cs : List Char} : decode s = .ok cs ↔ s = encode cs := by
  constructor
  · exact fun h => (encode_of_decodeFrom h).symm
  · rintro rfl
    exact decode_encode cs

theorem octets_inj {s t : String} : octets s = octets t ↔ s = t := by
  refine ⟨fun h => ?_, fun h => h ▸ rfl⟩
  have hs := toText?_octets s
  rw [h, toText?_octets] at hs
  exact (Option.some.inj hs).symm

/-- The text of octets that are ASCII. -/
def ascii (s : List UInt8) : String :=
  String.ofList (s.map fun b => Char.ofNat b.toNat)

theorem octets_ascii {s : List UInt8} (h : ∀ b ∈ s, b.toNat < 0x80) : octets (ascii s) = s := by
  rw [octets, ascii, String.toList_ofList]
  induction s with
  | nil => rfl
  | cons b s ih =>
    have hb := h b List.mem_cons_self
    rw [List.map_cons, encode_cons, ih fun b hb => h b (List.mem_cons_of_mem _ hb), encodeChar_one hb,
      toUInt8_eq rfl]
    rfl

/-! ## Order -/

theorem toUInt8_lt_iff {m n : Nat} (hm : m < 256) (hn : n < 256) : m.toUInt8 < n.toUInt8 ↔ m < n := by
  rw [UInt8.lt_iff_toNat_lt, toNat_toUInt8 hm, toNat_toUInt8 hn]

theorem toUInt8_inj {m n : Nat} (hm : m < 256) (hn : n < 256) : m.toUInt8 = n.toUInt8 ↔ m = n := by
  rw [← UInt8.toNat_inj, toNat_toUInt8 hm, toNat_toUInt8 hn]

theorem encodeChar_lt {c d : Char} (h : c < d) (s t : List UInt8) :
    encodeChar c ++ s < encodeChar d ++ t := by
  have hlt : c.toNat < d.toNat := h
  have hc := toNat_bounds c
  have hd := toNat_bounds d
  simp only [encodeChar]
  generalize c.toNat = m at *
  generalize d.toNat = n at *
  -- The first octet tells how many there are; with as many of them, the first that differs decides.
  split_ifs
  all_goals
    simp (disch := omega) only [List.cons_append, List.nil_append, List.cons_lt_cons_iff,
      toUInt8_lt_iff, toUInt8_inj]
    omega

theorem encode_lt {s t : List Char} (h : s < t) : encode s < encode t := by
  induction s generalizing t with
  | nil =>
    cases t with
    | nil => exact absurd h (List.lt_irrefl _)
    | cons d t =>
      obtain ⟨a, rest, hd, -⟩ := head_encodeChar d (encode t)
      rw [encode_cons, hd]
      exact List.nil_lt_cons a rest
  | cons c s ih =>
    cases t with
    | nil => exact absurd h (List.not_lt_nil _)
    | cons d t =>
      rw [encode_cons, encode_cons]
      rcases List.cons_lt_cons_iff.1 h with hlt | ⟨rfl, hlt⟩
      · exact encodeChar_lt hlt _ _
      · exact List.append_left_lt (ih hlt)

/-- **The order of texts is the order of their `octets`.** -/
theorem octets_lt_iff {s t : String} : octets s < octets t ↔ s < t := by
  refine ⟨fun h => ?_, fun h => encode_lt h⟩
  by_cases hlt : t < s
  · exact absurd h (List.lt_asymm (encode_lt hlt))
  · refine Decidable.byContradiction fun hnot => ?_
    have heq := String.le_antisymm (String.not_lt.1 hlt) (String.not_lt.1 hnot)
    exact absurd (heq ▸ h) (List.lt_irrefl _)

end VolumeDriver.Utf8
