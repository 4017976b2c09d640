import VolumeDriver.Proofs.Text.Utf8
import VolumeDriver.Text.Base64
set_option autoImplicit false

/-! # Base64 read back

A symbol and its value determine each other (`value?_symbol`, `symbol_of_value?`), and so do three octets
and their four symbols. `Base64.decode` therefore accepts exactly what `Base64.encode` writes, and reads it
back. -/

namespace VolumeDriver.Base64

open Utf8

/-! ## Symbols -/

theorem value?_symbol {v : Nat} (h : v < 64) : value? (symbol v) = some v := by
  revert v
  decide

theorem symbol_ne_pad {v : Nat} (h : v < 64) : symbol v ≠ pad := by
  revert v
  decide

/-- A property of all octets is one of 256 numbers. -/
theorem forall_octet {p : UInt8 → Prop} (h : ∀ n < 256, p n.toUInt8) (b : UInt8) : p b := by
  have hb := h b.toNat b.toNat_lt
  rwa [toUInt8_eq rfl] at hb

set_option maxRecDepth 4000 in
theorem symbol_of_value? (b : UInt8) : ∀ v ∈ value? b, v < 64 ∧ symbol v = b := by
  revert b
  exact forall_octet (by decide)

theorem valueAt_eq_ok_iff {offset v : Nat} {b : UInt8} :
    valueAt offset b = .ok v ↔ v < 64 ∧ symbol v = b := by
  unfold valueAt
  constructor
  · intro h
    cases hb : value? b with
    | none => simp [hb] at h
    | some w =>
      simp only [hb, Except.ok.injEq] at h
      exact h ▸ symbol_of_value? b w hb
  · rintro ⟨hv, rfl⟩
    rw [value?_symbol hv]

theorem valueAt_symbol (offset : Nat) {v : Nat} (h : v < 64) : valueAt offset (symbol v) = .ok v :=
  valueAt_eq_ok_iff.2 ⟨h, rfl⟩

/-! ## What was written is read -/

theorem decodeFrom_encode (octets : List UInt8) (offset : Nat) :
    decodeFrom offset (encode octets) = .ok octets := by
  fun_induction encode octets generalizing offset with
  | case1 => rfl
  | case2 a =>
    have ha := a.toNat_lt
    have hfirst := valueAt_symbol offset (v := a.toNat / 4) (by omega)
    have hsecond := valueAt_symbol (offset + 1) (v := a.toNat % 4 * 16) (by omega)
    have hunused : a.toNat % 4 * 16 % 16 = 0 := by omega
    have hocta : (a.toNat / 4 * 4 + a.toNat % 4 * 16 / 16).toUInt8 = a := toUInt8_eq (by omega)
    simp only [decodeFrom, hfirst, hsecond, hunused, hocta, bind, Except.bind, pure, Except.pure,
      and_self, if_true]
  | case3 a b =>
    have ha := a.toNat_lt
    have hb := b.toNat_lt
    have hfirst := valueAt_symbol offset (v := a.toNat / 4) (by omega)
    have hsecond := valueAt_symbol (offset + 1) (v := a.toNat % 4 * 16 + b.toNat / 16) (by omega)
    have hthird := valueAt_symbol (offset + 2) (v := b.toNat % 16 * 4) (by omega)
    have hpad := symbol_ne_pad (v := b.toNat % 16 * 4) (by omega)
    have hunused : b.toNat % 16 * 4 % 4 = 0 := by omega
    have hocta : (a.toNat / 4 * 4 + (a.toNat % 4 * 16 + b.toNat / 16) / 16).toUInt8 = a :=
      toUInt8_eq (by omega)
    have hoctb : ((a.toNat % 4 * 16 + b.toNat / 16) % 16 * 16 + b.toNat % 16 * 4 / 4).toUInt8 = b :=
      toUInt8_eq (by omega)
    simp only [decodeFrom, hfirst, hsecond, hthird, hpad, hunused, hocta, hoctb, bind, Except.bind,
      pure, Except.pure, if_true, if_false]
  | case4 a b c rest ih =>
    have ha := a.toNat_lt
    have hb := b.toNat_lt
    have hc := c.toNat_lt
    have hfirst := valueAt_symbol offset (v := a.toNat / 4) (by omega)
    have hsecond := valueAt_symbol (offset + 1) (v := a.toNat % 4 * 16 + b.toNat / 16) (by omega)
    have hthird := valueAt_symbol (offset + 2) (v := b.toNat % 16 * 4 + c.toNat / 64) (by omega)
    have hfourth := valueAt_symbol (offset + 3) (v := c.toNat % 64) (by omega)
    have hpad := symbol_ne_pad (v := b.toNat % 16 * 4 + c.toNat / 64) (by omega)
    have hpad' := symbol_ne_pad (v := c.toNat % 64) (by omega)
    have hocta : (a.toNat / 4 * 4 + (a.toNat % 4 * 16 + b.toNat / 16) / 16).toUInt8 = a :=
      toUInt8_eq (by omega)
    have hoctb : ((a.toNat % 4 * 16 + b.toNat / 16) % 16 * 16 +
        (b.toNat % 16 * 4 + c.toNat / 64) / 4).toUInt8 = b := toUInt8_eq (by omega)
    have hoctc : ((b.toNat % 16 * 4 + c.toNat / 64) % 4 * 64 + c.toNat % 64).toUInt8 = c :=
      toUInt8_eq (by omega)
    simp only [decodeFrom, hfirst, hsecond, hthird, hfourth, hpad, hpad', hocta, hoctb, hoctc, ih,
      bind, Except.bind, pure, Except.pure, if_false]

/-! ## What is read was written -/

/-- A step of reading that is followed by more. -/
theorem bind_eq_ok_iff {ε α β : Type} {x : Except ε α} {f : α → Except ε β} {b : β} :
    x >>= f = .ok b ↔ ∃ a, x = .ok a ∧ f a = .ok b := by
  cases x <;> simp [bind, Except.bind]

theorem encode_one {va vb : Nat} (ha : va < 64) (hb : vb < 64) (hunused : vb % 16 = 0) :
    encode [(va * 4 + vb / 16).toUInt8] = [symbol va, symbol vb, pad, pad] := by
  rw [encode, toNat_toUInt8 (by omega), show (va * 4 + vb / 16) / 4 = va by omega,
    show (va * 4 + vb / 16) % 4 * 16 = vb by omega]

theorem encode_two {va vb vc : Nat} (ha : va < 64) (hb : vb < 64) (hc : vc < 64)
    (hunused : vc % 4 = 0) :
    encode [(va * 4 + vb / 16).toUInt8, (vb % 16 * 16 + vc / 4).toUInt8] =
      [symbol va, symbol vb, symbol vc, pad] := by
  rw [encode, toNat_toUInt8 (by omega), toNat_toUInt8 (by omega),
    show (va * 4 + vb / 16) / 4 = va by omega,
    show (va * 4 + vb / 16) % 4 * 16 + (vb % 16 * 16 + vc / 4) / 16 = vb by omega,
    show (vb % 16 * 16 + vc / 4) % 16 * 4 = vc by omega]

theorem encode_three {va vb vc vd : Nat} (ha : va < 64) (hb : vb < 64) (hc : vc < 64) (hd : vd < 64)
    (more : List UInt8) :
    encode ((va * 4 + vb / 16).toUInt8 :: (vb % 16 * 16 + vc / 4).toUInt8 ::
        (vc % 4 * 64 + vd).toUInt8 :: more) =
      symbol va :: symbol vb :: symbol vc :: symbol vd :: encode more := by
  rw [encode, toNat_toUInt8 (by omega), toNat_toUInt8 (by omega), toNat_toUInt8 (by omega),
    show (va * 4 + vb / 16) / 4 = va by omega,
    show (va * 4 + vb / 16) % 4 * 16 + (vb % 16 * 16 + vc / 4) / 16 = vb by omega,
    show (vb % 16 * 16 + vc / 4) % 16 * 4 + (vc % 4 * 64 + vd) / 64 = vc by omega,
    show (vc % 4 * 64 + vd) % 64 = vd by omega]

/-- Symbols that `decodeFrom` reads are those that `encode` writes for the octets they are read as. -/
theorem encode_of_decodeFrom {offset : Nat} {s octets : List UInt8}
    (h : decodeFrom offset s = .ok octets) : encode octets = s := by
  match s with
  | [] =>
    cases h
    rfl
  | [a] | [a, b] =>
    simp [decodeFrom, bind_eq_ok_iff, throw, throwThe, MonadExceptOf.throw] at h
  | [a, b, c] =>
    by_cases hpad : c = pad <;>
      simp [decodeFrom, bind_eq_ok_iff, hpad, throw, throwThe, MonadExceptOf.throw] at h
  | a :: b :: c :: d :: rest =>
    simp only [decodeFrom, bind_eq_ok_iff, valueAt_eq_ok_iff] at h
    obtain ⟨va, ⟨ha, rfl⟩, vb, ⟨hb, rfl⟩, h⟩ := h
    -- The text ends with two, one or no symbols of padding.
    by_cases hc : c = pad
    · rw [if_pos hc] at h
      by_cases hend : d = pad ∧ rest = []
      · by_cases hunused : vb % 16 = 0
        · rw [if_pos hend, if_pos hunused] at h
          cases h
          rw [encode_one ha hb hunused, hc, hend.1, hend.2]
        · rw [if_pos hend, if_neg hunused] at h
          cases h
      · rw [if_neg hend] at h
        cases h
    · simp only [if_neg hc, bind_eq_ok_iff, valueAt_eq_ok_iff] at h
      obtain ⟨vc, ⟨hvc, rfl⟩, h⟩ := h
      by_cases hd : d = pad
      · rw [if_pos hd] at h
        by_cases hend : rest = []
        · by_cases hunused : vc % 4 = 0
          · rw [if_pos hend, if_pos hunused] at h
            cases h
            rw [encode_two ha hb hvc hunused, hd, hend]
          · rw [if_pos hend, if_neg hunused] at h
            cases h
        · rw [if_neg hend] at h
          cases h
      · simp only [if_neg hd, bind_eq_ok_iff, valueAt_eq_ok_iff] at h
        obtain ⟨vd, ⟨hvd, rfl⟩, more, hmore, h⟩ := h
        cases h
        rw [encode_three ha hb hvc hvd, encode_of_decodeFrom hmore]

/-- Whole groups of four symbols are written by `encode`. -/
theorem length_encode_mod (octets : List UInt8) : (encode octets).length % 4 = 0 := by
  fun_induction encode octets with
  | case1 | case2 | case3 => simp
  | case4 a b c rest ih =>
    simp only [List.length_cons]
    omega

/-- **What `decode` reads is exactly what `encode` writes.** -/
theorem decode_eq_ok_iff {s octets : List UInt8} : decode s = .ok octets ↔ s = encode octets := by
  constructor
  · intro h
    rw [decode] at h
    split at h
    · split at h
      · split at h <;> cases h
      · cases h
    · exact (encode_of_decodeFrom h).symm
  · rintro rfl
    have hlength := length_encode_mod octets
    rw [decode, if_neg (by omega), decodeFrom_encode]

/-! ## As text -/

theorem symbol_ascii (v : Nat) : (symbol v).toNat < 0x80 := by
  by_cases h : v < 64
  · revert v
    decide
  · rw [symbol, if_neg (by omega), if_neg (by omega), if_neg (by omega), if_neg (by omega)]
    decide

/-- What `encode` writes is ASCII. -/
theorem encode_ascii (octets : List UInt8) : ∀ b ∈ encode octets, b.toNat < 0x80 := by
  have hpad : pad.toNat < 0x80 := by decide
  fun_induction encode octets with
  | case1 => simp
  | case2 a => simp [hpad, symbol_ascii]
  | case3 a b => simp [hpad, symbol_ascii]
  | case4 a b c rest ih => simpa [symbol_ascii] using ih

end VolumeDriver.Base64
