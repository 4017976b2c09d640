import VolumeDriver.Text.Numeral
set_option autoImplicit false

/-! # Numerals read back

What `Numeral.decimal` writes for a natural number is read as that number, and but for a plus sign and zeros
in front (`Spelling`) nothing else is. -/

namespace VolumeDriver.Numeral

theorem digit?_of_isDigit {c : Char} (h : c.isDigit) : digit? c = some (c.toNat - '0'.toNat) := by
  have hrange : '0' ≤ c ∧ c ≤ '9' := by
    simpa [Char.isDigit, Char.le_def] using h
  rw [digit?, if_pos hrange]

/-- A run of digits goes on by `valueFrom` to the number that it spells. -/
theorem valueFrom_eq {s : List Char} (h : ∀ c ∈ s, c.isDigit) (n : Nat) :
    valueFrom n s = some (Nat.ofDigitChars 10 s n) := by
  induction s generalizing n with
  | nil => rw [valueFrom, Nat.ofDigitChars_nil]
  | cons c s ih =>
    rw [valueFrom, digit?_of_isDigit (h c List.mem_cons_self), Nat.ofDigitChars_cons]
    exact ih (fun c hc => h c (List.mem_cons_of_mem _ hc)) _

theorem value?_toDigits (n : Nat) : value? (Nat.toDigits 10 n) = some n := by
  have hdigits : ∀ c ∈ Nat.toDigits 10 n, c.isDigit :=
    fun c hc => Nat.isDigit_of_mem_toDigits (by decide) (by decide) hc
  have hempty : (Nat.toDigits 10 n).isEmpty = false :=
    List.isEmpty_eq_false_iff.2 Nat.toDigits_ne_nil
  simp only [value?, hempty, valueFrom_eq hdigits, Nat.ofDigitChars_ten_toDigits]
  rfl

/-! ## Decimals -/

theorem digitChar_eq {n : Nat} (h : n < 10) : digitChar n = Nat.digitChar n := by
  decide +revert

/-- Numbers in decimal are written as the library writes them. -/
theorem decimal_eq_toDigits (n : Nat) : decimal n = Nat.toDigits 10 n := by
  rw [decimal]
  induction n using Nat.strongRecOn with
  | ind n ih =>
    rw [digits, Nat.toDigits_eq_if (by decide)]
    by_cases h : n < 10
    · rw [dif_pos (.inl h), if_pos h, digitChar_eq (by omega), Nat.mod_eq_of_lt (by omega)]
    · have hlast : digitChar (n % 10) = Nat.digitChar (n % 10) := digitChar_eq (by omega)
      rw [dif_neg (by omega), if_neg h, ih (n / 10) (by omega), hlast]

theorem isDigit_of_mem_decimal {n : Nat} {c : Char} (h : c ∈ decimal n) : c.isDigit := by
  rw [decimal_eq_toDigits] at h
  exact Nat.isDigit_of_mem_toDigits (by decide) (by decide) h

theorem not_mem_decimal {c : Char} (h : c.isDigit = false) (n : Nat) : c ∉ decimal n :=
  fun hc => absurd (isDigit_of_mem_decimal hc) (by simp [h])

/-- What `decimal` writes for a number begins with a zero only if there is nothing else. -/
theorem decimal_eq_cons (n : Nat) : ∃ c s, decimal n = c :: s ∧ (c = '0' → s = [] ∧ n = 0) := by
  rw [decimal_eq_toDigits]
  induction n using Nat.strongRecOn with
  | ind n ih =>
    rw [Nat.toDigits_eq_if (by decide)]
    by_cases h : n < 10
    · have hzero : ∀ m < 10, Nat.digitChar m = '0' → m = 0 := by decide
      rw [if_pos h]
      exact ⟨_, [], rfl, fun hc => ⟨rfl, hzero n h hc⟩⟩
    · obtain ⟨c, s, heq, hzero⟩ := ih (n / 10) (by omega)
      rw [if_neg h, heq]
      refine ⟨c, _, rfl, fun hc => ?_⟩
      have := (hzero hc).2
      omega

/-! ## One way to spell a number -/

/-- Only the digits themselves have a value by `digit?`. -/
theorem eq_digitChar_of_digit? {c : Char} {d : Nat} (h : digit? c = some d) :
    d < 10 ∧ c = Nat.digitChar d := by
  rw [digit?] at h
  split at h
  · rename_i hrange
    have hlow : 48 ≤ c.toNat := hrange.1
    have hhigh : c.toNat ≤ 57 := hrange.2
    have hd : c.toNat = 48 + d := by
      have hsub : c.toNat - 48 = d := Option.some.inj h
      omega
    have hlt : d < 10 := by omega
    refine ⟨hlt, Char.toNat_inj.1 ?_⟩
    rw [hd, Nat.toNat_digitChar_of_lt_ten hlt]
  · cases h

/-- A run of digits behind a number that is not zero is the end of what `decimal` writes for the whole. -/
theorem decimal_append_of_valueFrom {s : List Char} {m n : Nat} (hm : 0 < m)
    (h : valueFrom m s = some n) : decimal m ++ s = decimal n := by
  induction s generalizing m with
  | nil =>
    cases h
    exact List.append_nil _
  | cons c s ih =>
    rw [valueFrom] at h
    split at h
    · rename_i d hd
      obtain ⟨hlt, rfl⟩ := eq_digitChar_of_digit? hd
      have hnext : decimal m ++ [Nat.digitChar d] = decimal (10 * m + d) := by
        simp only [decimal_eq_toDigits]
        rw [← Nat.toDigits_append_toDigits (by decide) hm hlt, Nat.toDigits_of_lt_base hlt]
      rw [List.append_cons, hnext]
      exact ih (by omega) h
    · cases h

/-- **A number is spelt in one way only**, as `decimal` writes it, if there are no zeros in front of it. -/
theorem eq_decimal_of_value? {s : List Char} {n : Nat} (hzero : s.head? = some '0' → s.length = 1)
    (h : value? s = some n) : s = decimal n := by
  cases s with
  | nil => cases h
  | cons c s =>
    rw [value?, List.isEmpty_cons, if_neg Bool.false_ne_true, valueFrom] at h
    split at h
    · rename_i d hd
      obtain ⟨hlt, rfl⟩ := eq_digitChar_of_digit? hd
      have hone : decimal d = [Nat.digitChar d] := by
        rw [decimal_eq_toDigits, Nat.toDigits_of_lt_base hlt]
      rw [Nat.mul_zero, Nat.zero_add] at h
      by_cases hd0 : d = 0
      · subst hd0
        obtain rfl : s = [] := by simpa using hzero rfl
        cases h
        exact hone.symm
      · rw [← decimal_append_of_valueFrom (Nat.pos_of_ne_zero hd0) h, hone]
        rfl
    · cases h

/-! ## Other ways to spell a number -/

/-- How a number is spelt: whether a plus sign and how many zeros stand in front of it. -/
structure Spelling where
  plus : Bool
  zeros : Nat
  deriving DecidableEq

namespace Spelling

/-- The `Spelling` with neither a sign nor a zero. -/
def plain : Spelling := ⟨false, 0⟩

/-- A number in a `Spelling`. -/
def text (x : Spelling) (n : Nat) : List Char :=
  (if x.plus then ['+'] else []) ++ (List.replicate x.zeros '0' ++ decimal n)

theorem not_mem_text {c : Char} (hdigit : c.isDigit = false) (hplus : c ≠ '+') (x : Spelling)
    (n : Nat) : c ∉ x.text n := by
  have hzero : c ≠ '0' := by
    rintro rfl
    cases hdigit
  unfold text
  split <;> simp [not_mem_decimal hdigit, hplus, hzero]

theorem plus_mem_text (x : Spelling) (n : Nat) : '+' ∈ x.text n ↔ x.plus = true := by
  unfold text
  cases x.plus <;> simp [not_mem_decimal]

theorem length_text (x : Spelling) (n : Nat) :
    (x.text n).length = (if x.plus then 1 else 0) + x.zeros + (decimal n).length := by
  unfold text
  cases x.plus with
  | true => simp [Nat.add_comm 1, Nat.add_right_comm]
  | false => simp

end Spelling

theorem valueFrom_zeros (k : Nat) (s : List Char) :
    valueFrom 0 (List.replicate k '0' ++ s) = valueFrom 0 s := by
  induction k with
  | zero => rfl
  | succ k ih => exact ih

theorem decimal_ne_nil (n : Nat) : decimal n ≠ [] := by
  rw [decimal_eq_toDigits]
  exact Nat.toDigits_ne_nil

theorem value?_of_ne_nil {s : List Char} (h : s ≠ []) : value? s = valueFrom 0 s := by
  unfold value?
  simp [h]

/-- A run of digits that `value?` reads is a number with zeros in front of it. -/
theorem value?_eq_some_iff {s : List Char} {n : Nat} :
    value? s = some n ↔ ∃ k, s = List.replicate k '0' ++ decimal n := by
  constructor
  · intro h
    induction s with
    | nil => cases h
    | cons c s ih =>
      by_cases hzero : c = '0' ∧ s ≠ []
      · obtain ⟨rfl, hne⟩ := hzero
        have hrest : value? s = some n := by
          rw [value?_of_ne_nil hne]
          exact h
        obtain ⟨k, rfl⟩ := ih hrest
        exact ⟨k + 1, rfl⟩
      · refine ⟨0, eq_decimal_of_value? ?_ h⟩
        intro hhead
        have hc : c = '0' := Option.some.inj hhead
        have hs : s = [] := Decidable.not_not.1 fun hne => hzero ⟨hc, hne⟩
        simp [hs]
  · rintro ⟨k, rfl⟩
    have hne : List.replicate k '0' ++ decimal n ≠ [] := by
      simp [decimal_ne_nil]
    rw [value?_of_ne_nil hne, valueFrom_zeros, ← value?_of_ne_nil (decimal_ne_nil n),
      decimal_eq_toDigits, value?_toDigits]

/-- A text without the plus sign in front of it. -/
def unsigned : List Char → List Char
  | '+' :: s => s
  | s => s

theorem unsigned_eq_iff {s digits : List Char} (h : '+' ∉ digits) :
    unsigned s = digits ↔ ∃ plus : Bool, s = (if plus then ['+'] else []) ++ digits := by
  constructor
  · rintro rfl
    unfold unsigned
    split
    · exact ⟨true, rfl⟩
    · exact ⟨false, rfl⟩
  · rintro ⟨plus, rfl⟩
    cases plus with
    | true => rfl
    | false =>
      show unsigned digits = digits
      unfold unsigned
      split
      · exact absurd List.mem_cons_self h
      · rfl

theorem parse?_eq (max : Nat) (s : List Char) :
    parse? max s = (value? (unsigned s)).filter (· ≤ max) := by
  by_cases h : ∃ rest, s = '+' :: rest
  · obtain ⟨rest, rfl⟩ := h
    rw [parse?.eq_1, unsigned.eq_1]
    cases value? rest <;> simp [Option.filter]
  · have hnone : ∀ rest, s ≠ '+' :: rest := not_exists.1 h
    rw [parse?.eq_2 max s hnone, unsigned.eq_2 s hnone]
    cases value? s <;> simp [Option.filter]

/-- **A number is read by `parse?` from its `Spelling`s and from nothing else.** -/
theorem parse?_eq_some_iff {max n : Nat} {s : List Char} :
    parse? max s = some n ↔ n ≤ max ∧ ∃ x : Spelling, s = x.text n := by
  have hplus : ∀ k, '+' ∉ List.replicate k '0' ++ decimal n := by
    intro k
    simp [not_mem_decimal]
  rw [parse?_eq, Option.filter_eq_some_iff, value?_eq_some_iff, decide_eq_true_iff, and_comm]
  refine and_congr_right fun _ => ?_
  constructor
  · rintro ⟨k, hk⟩
    obtain ⟨plus, rfl⟩ := (unsigned_eq_iff (hplus k)).1 hk
    exact ⟨⟨plus, k⟩, rfl⟩
  · rintro ⟨x, rfl⟩
    exact ⟨x.zeros, (unsigned_eq_iff (hplus x.zeros)).2 ⟨x.plus, rfl⟩⟩

theorem parse?_toString {max n : Nat} (h : n ≤ max) :
    parse? max (toString n).toList = some n := by
  rw [Nat.toString_eq_repr, Nat.toList_repr, ← decimal_eq_toDigits]
  exact parse?_eq_some_iff.2 ⟨h, .plain, rfl⟩

/-- No two `Spelling`s of numbers are one text. -/
theorem Spelling.text_inj {x y : Spelling} {m n : Nat} : x.text m = y.text n ↔ x = y ∧ m = n := by
  constructor
  · intro h
    -- The text is read as both numbers, so they are one.
    have hread : parse? (max m n) (x.text m) = some m :=
      parse?_eq_some_iff.2 ⟨Nat.le_max_left m n, x, rfl⟩
    rw [parse?_eq_some_iff.2 ⟨Nat.le_max_right m n, y, h⟩] at hread
    obtain rfl := Option.some.inj hread
    have hplus : x.plus = y.plus := by
      rw [Bool.eq_iff_iff, ← plus_mem_text x n, ← plus_mem_text y n, h]
    have hlength : (x.text n).length = (y.text n).length := by rw [h]
    rw [length_text, length_text, hplus] at hlength
    have hzeros : x.zeros = y.zeros := by omega
    refine ⟨?_, rfl⟩
    cases x
    cases y
    simp_all
  · rintro ⟨rfl, rfl⟩
    rfl

end VolumeDriver.Numeral
