import VolumeDriver.Json.Scan
import VolumeDriver.Proofs.Text.Numeral
import VolumeDriver.Proofs.Text.Utf8
set_option autoImplicit false

/-! # Numbers passed over and read back

The spellings of a number are said here without the reader (`WholeText`, `FractionText`, `ExponentText`).
Each of them is passed over as a whole by `skipNumber`, as long as what follows cannot be taken for more of
it (`EndsNumber`); and a natural number that is written in decimal is read by `readNumber` as that number. -/

namespace VolumeDriver.Json

open Utf8

/-! ## Digits -/

theorem toNat_of_isDigit {c : Char} (h : c.isDigit = true) : 0x30 ≤ c.toNat ∧ c.toNat ≤ 0x39 := by
  simpa [Char.isDigit, UInt32.le_iff_toNat_le] using h

/-- The octet of a digit, and the value that it has. -/
theorem encodeChar_digit {c : Char} (h : c.isDigit = true) : encodeChar c = [c.toNat.toUInt8] ∧
    isDigit c.toNat.toUInt8 = true ∧ digitValue c.toNat.toUInt8 = c.toNat - '0'.toNat := by
  obtain ⟨hlow, hhigh⟩ := toNat_of_isDigit h
  refine ⟨if_pos (by omega), ?_, ?_⟩
  · rw [isDigit, toUInt8_bounds (by omega)]
    simp [hlow, hhigh]
  · rw [digitValue, toNat_toUInt8 (by omega)]
    rfl

theorem octet_ne_zero {c : Char} (h : c.isDigit = true) (hc : c ≠ '0') : c.toNat.toUInt8 ≠ 0x30 := by
  intro heq
  have hrange := toNat_of_isDigit h
  rw [← UInt8.toNat_inj, toNat_toUInt8 (by omega)] at heq
  exact hc (Char.toNat_inj.1 heq)

theorem isDigit_of_mem_encode {s : List Char} (h : ∀ c ∈ s, c.isDigit = true) :
    ∀ b ∈ encode s, isDigit b = true := by
  intro b hb
  obtain ⟨c, hc, hb⟩ := List.mem_flatMap.1 hb
  obtain ⟨hoctet, hdigit, -⟩ := encodeChar_digit (h c hc)
  rw [hoctet, List.mem_singleton] at hb
  rwa [hb]

theorem ne_of_isDigit {b : UInt8} (h : isDigit b = true) (o : UInt8) (ho : isDigit o = false) : b ≠ o := by
  rintro rfl
  cases h.symm.trans ho

theorem isBlank_digit {b : UInt8} (h : isDigit b = true) : isBlank b = false := by
  have hne := ne_of_isDigit h
  simp [isBlank, hne 0x20 rfl, hne 0x09 rfl, hne 0x0A rfl, hne 0x0D rfl]

/-- Octets that go on with no digit. -/
def NoDigit : List UInt8 → Prop
  | [] => True
  | b :: _ => isDigit b = false

/-- Octets that may follow a number, which does not go on with them: neither a digit, nor a point or the
    letter of an exponent. -/
def EndsNumber : List UInt8 → Prop
  | [] => True
  | b :: _ => isDigit b = false ∧ b ≠ 0x2E ∧ b ≠ 0x65 ∧ b ≠ 0x45

theorem EndsNumber.noDigit {s : List UInt8} (h : EndsNumber s) : NoDigit s := by
  cases s with
  | nil => trivial
  | cons b s => exact h.1

/-- A run of digits ends where something else follows (`NoDigit`). -/
theorem span_digits {s : List Char} (h : ∀ c ∈ s, c.isDigit = true) {rest : List UInt8}
    (hrest : NoDigit rest) : (encode s ++ rest).takeWhile isDigit = encode s ∧
      (encode s ++ rest).dropWhile isDigit = rest := by
  have hdigits := isDigit_of_mem_encode h
  rw [List.takeWhile_append_of_pos hdigits, List.dropWhile_append_of_pos hdigits]
  cases rest with
  | nil => simp
  | cons b rest =>
    have hb : isDigit b = false := hrest
    simp [hb]

/-! ## Spellings -/

/-- Digits, one or more. -/
def Digits (s : List Char) : Prop :=
  s ≠ [] ∧ ∀ c ∈ s, c.isDigit = true

instance (s : List Char) : Decidable (Digits s) :=
  decidable_of_iff (s ≠ [] ∧ s.all Char.isDigit) (by simp [Digits])

/-- The digits in front of the point: a zero stands alone. -/
inductive WholeText : List Char → Prop
  | zero : WholeText ['0']
  | digits {c : Char} {s : List Char} (hc : c ≠ '0') (h : Digits (c :: s)) : WholeText (c :: s)

/-- The point and the digits behind it, if there are any. -/
inductive FractionText : List Char → Prop
  | none : FractionText []
  | some {s : List Char} (h : Digits s) : FractionText ('.' :: s)

/-- The exponent, if there is one. -/
inductive ExponentText : List Char → Prop
  | none : ExponentText []
  | some {e : Char} {sign s : List Char} (he : e = 'e' ∨ e = 'E')
      (hsign : sign = [] ∨ sign = ['+'] ∨ sign = ['-']) (h : Digits s) : ExponentText (e :: (sign ++ s))

variable {whole fraction exponent : List Char} {rest : List UInt8}

/-- An exponent is passed over by `skipExponent` after its letter. -/
theorem skipExponent_spelling {sign s : List Char} (hsign : sign = [] ∨ sign = ['+'] ∨ sign = ['-'])
    (h : Digits s) (hrest : NoDigit rest) : skipExponent (encode (sign ++ s) ++ rest) = .ok rest := by
  obtain ⟨hne, hdigits⟩ := h
  obtain ⟨c, s, rfl⟩ := List.exists_cons_of_ne_nil hne
  obtain ⟨hoctet, hdigit, -⟩ := encodeChar_digit (hdigits c List.mem_cons_self)
  obtain ⟨-, hspan⟩ := span_digits (fun d hd => hdigits d (List.mem_cons_of_mem _ hd)) hrest
  have hfirst : encode (c :: s) ++ rest = c.toNat.toUInt8 :: (encode s ++ rest) := by
    rw [encode_cons, hoctet]
    rfl
  have hunsigned : ¬(c.toNat.toUInt8 = 0x2B ∨ c.toNat.toUInt8 = 0x2D) := by
    rintro (h | h) <;> rw [h] at hdigit <;> cases hdigit
  rcases hsign with rfl | rfl | rfl
  · simp only [List.nil_append, hfirst, skipExponent, if_neg hunsigned, hdigit, if_true, hspan]
  · show skipExponent (0x2B :: (encode (c :: s) ++ rest)) = _
    simp only [hfirst, skipExponent, true_or, if_true, hdigit, hspan]
  · show skipExponent (0x2D :: (encode (c :: s) ++ rest)) = _
    simp only [hfirst, skipExponent, or_true, if_true, hdigit, hspan]

/-- Behind the digits of a number stands what follows it, or an exponent that `skipExponent` passes over. -/
theorem exponent_cases (he : ExponentText exponent) (hrest : EndsNumber rest) :
    encode exponent ++ rest = rest ∨
      ∃ b s, encode exponent ++ rest = b :: s ∧ (b = 0x65 ∨ b = 0x45) ∧ skipExponent s = .ok rest := by
  cases he with
  | none => exact .inl rfl
  | @some e sign s he hsign h =>
    refine .inr ?_
    have hskip := skipExponent_spelling hsign h hrest.noDigit
    rcases he with rfl | rfl
    · exact ⟨0x65, _, rfl, .inl rfl, hskip⟩
    · exact ⟨0x45, _, rfl, .inr rfl, hskip⟩

theorem noDigit_letter {b : UInt8} (h : b = 0x65 ∨ b = 0x45) (s : List UInt8) : NoDigit (b :: s) := by
  rcases h with rfl | rfl <;> rfl

theorem noDigit_exponent (he : ExponentText exponent) (hrest : EndsNumber rest) :
    NoDigit (encode exponent ++ rest) := by
  rcases exponent_cases he hrest with heq | ⟨b, s, heq, hletter, -⟩
  · rw [heq]
    exact hrest.noDigit
  · rw [heq]
    exact noDigit_letter hletter s

theorem skipFraction_rest (hrest : EndsNumber rest) : skipFraction rest = .ok rest := by
  cases rest with
  | nil => rfl
  | cons b rest =>
    obtain ⟨-, hpoint, hlower, hupper⟩ := hrest
    simp [skipFraction, hpoint, hlower, hupper]

/-- What follows the digits in front of the point is passed over by `skipFraction`. -/
theorem skipFraction_spelling (hf : FractionText fraction) (he : ExponentText exponent)
    (hrest : EndsNumber rest) :
    skipFraction (encode fraction ++ (encode exponent ++ rest)) = .ok rest := by
  cases hf with
  | none =>
    rw [encode_nil, List.nil_append]
    rcases exponent_cases he hrest with heq | ⟨b, s, heq, hletter, hskip⟩
    · rw [heq, skipFraction_rest hrest]
    · have hpoint : b ≠ 0x2E := by
        rintro rfl
        rcases hletter with h | h <;> cases h
      simp only [heq, skipFraction, if_neg hpoint, if_pos hletter, hskip]
  | @some s h =>
    obtain ⟨hne, hdigits⟩ := h
    obtain ⟨htake, hdrop⟩ := span_digits hdigits (noDigit_exponent he hrest)
    obtain ⟨c, s, rfl⟩ := List.exists_cons_of_ne_nil hne
    have hsome : (encode (c :: s)).isEmpty = false := by
      rw [encode_cons, (encodeChar_digit (hdigits c List.mem_cons_self)).1]
      rfl
    show skipFraction (0x2E :: (encode (c :: s) ++ (encode exponent ++ rest))) = _
    simp only [skipFraction, if_true, htake, hsome, Bool.false_eq_true, if_false, hdrop]
    rcases exponent_cases he hrest with heq | ⟨b, t, heq, hletter, hskip⟩
    · rw [heq]
      cases rest with
      | nil => rfl
      | cons b rest => exact if_neg (by simp [hrest.2.2])
    · simp only [heq, if_pos hletter, hskip]

theorem noDigit_fraction (hf : FractionText fraction) (he : ExponentText exponent)
    (hrest : EndsNumber rest) : NoDigit (encode fraction ++ (encode exponent ++ rest)) := by
  cases hf with
  | none =>
    show NoDigit (encode exponent ++ rest)
    exact noDigit_exponent he hrest
  | some h => exact (rfl : isDigit 0x2E = false)

/-- **Every spelling of a number is passed over by `skipNumber`,** after its sign. -/
theorem skipNumber_spelling (hw : WholeText whole) (hf : FractionText fraction)
    (he : ExponentText exponent) (hrest : EndsNumber rest) :
    skipNumber (encode whole ++ (encode fraction ++ (encode exponent ++ rest))) = .ok rest := by
  have hskip := skipFraction_spelling hf he hrest
  have hstop := noDigit_fraction hf he hrest
  cases hw with
  | zero =>
    show skipNumber (0x30 :: (encode fraction ++ (encode exponent ++ rest))) = _
    cases h : encode fraction ++ (encode exponent ++ rest) with
    | nil =>
      rw [h] at hskip
      exact hskip
    | cons b s =>
      rw [h] at hskip hstop
      have hb : isDigit b = false := hstop
      simpa [skipNumber, hb] using hskip
  | @digits c s hc h =>
    obtain ⟨hoctet, hdigit, -⟩ := encodeChar_digit (h.2 c List.mem_cons_self)
    obtain ⟨-, hdrop⟩ := span_digits (fun d hd => h.2 d (List.mem_cons_of_mem _ hd)) hstop
    have hzero := octet_ne_zero (h.2 c List.mem_cons_self) hc
    rw [encode_cons, hoctet]
    simp only [List.cons_append, List.nil_append, skipNumber, if_neg hzero, hdigit, if_true, hdrop, hskip]

/-! ## Natural numbers -/

theorem le_ofDigitChars (s : List Char) (n : Nat) : n ≤ Nat.ofDigitChars 10 s n := by
  induction s generalizing n with
  | nil => exact Nat.le_of_eq (Nat.ofDigitChars_nil).symm
  | cons c s ih =>
    rw [Nat.ofDigitChars_cons]
    have := ih (10 * n + (c.toNat - '0'.toNat))
    omega

/-- Digits are put by `accumulate` to the number that they go on to, if it is not too large. -/
theorem accumulate_encode {s : List Char} (h : ∀ c ∈ s, c.isDigit = true) {max n : Nat}
    (hmax : Nat.ofDigitChars 10 s n ≤ max) :
    accumulate max n (encode s) = (Nat.ofDigitChars 10 s n, []) := by
  induction s generalizing n with
  | nil => rw [encode_nil, accumulate, Nat.ofDigitChars_nil]
  | cons c s ih =>
    obtain ⟨hoctet, -, hvalue⟩ := encodeChar_digit (h c List.mem_cons_self)
    rw [Nat.ofDigitChars_cons] at hmax ⊢
    have hle := le_ofDigitChars s (10 * n + (c.toNat - '0'.toNat))
    rw [encode_cons, hoctet, List.singleton_append, accumulate, hvalue, Nat.mul_comm n 10,
      if_pos (Nat.le_trans hle hmax)]
    exact ih (fun d hd => h d (List.mem_cons_of_mem _ hd)) hmax

theorem finishInteger_rest (n : Nat) (hrest : EndsNumber rest) :
    finishInteger true n rest = .ok (.natural n, rest) := by
  cases rest with
  | nil => rfl
  | cons b rest =>
    obtain ⟨-, hpoint, hlower, hupper⟩ := hrest
    simp [finishInteger, hpoint, hlower, hupper]

/-- **A natural number is read back by `readNumber`** as `Numeral.decimal` wrote it. -/
theorem readNumber_decimal {n : Nat} (hn : n ≤ maxNatural) (hrest : EndsNumber rest) :
    readNumber true (encode (Numeral.decimal n) ++ rest) = .ok (.natural n, rest) := by
  have hdigits : ∀ c ∈ Numeral.decimal n, c.isDigit = true := fun c hc => Numeral.isDigit_of_mem_decimal hc
  have hvalue : Nat.ofDigitChars 10 (Numeral.decimal n) 0 = n := by
    rw [Numeral.decimal_eq_toDigits, Nat.ofDigitChars_ten_toDigits]
  obtain ⟨c, s, hdecimal, hzero⟩ := Numeral.decimal_eq_cons n
  rw [hdecimal] at hdigits hvalue ⊢
  obtain ⟨hoctet, hdigit, hfirst⟩ := encodeChar_digit (hdigits c List.mem_cons_self)
  have htail : ∀ d ∈ s, d.isDigit = true := fun d hd => hdigits d (List.mem_cons_of_mem _ hd)
  rw [encode_cons, hoctet]
  by_cases hc : c = '0'
  · obtain ⟨rfl, rfl⟩ := hzero hc
    subst hc
    show readNumber true (0x30 :: rest) = _
    cases rest with
    | nil => rfl
    | cons b rest =>
      have hb : isDigit b = false := hrest.1
      have hfinish := finishInteger_rest 0 hrest
      simp [readNumber, hb, hfinish]
  · have hnonzero := octet_ne_zero (hdigits c List.mem_cons_self) hc
    obtain ⟨htake, hdrop⟩ := span_digits htail hrest.noDigit
    have hn' : Nat.ofDigitChars 10 s (digitValue c.toNat.toUInt8) = n := by
      rwa [Nat.ofDigitChars_cons, Nat.mul_zero, Nat.zero_add, ← hfirst] at hvalue
    have haccumulate := accumulate_encode htail (hn'.symm ▸ hn)
    simp only [List.cons_append, List.nil_append, readNumber, if_neg hnonzero, hdigit, if_true, htake,
      hdrop, haccumulate, hn', finishInteger_rest n hrest]

end VolumeDriver.Json
