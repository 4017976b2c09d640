import VolumeDriver.Proofs.Text.Cut
import VolumeDriver.Proofs.Text.Numeral
import VolumeDriver.Text.Ipv4
set_option autoImplicit false

/-! # Addresses written and read

An address is read by `Ipv4.parse?` from the text that `Ipv4.toChars` writes for it, and from no other text:
there is one way to write each of its four numbers (`octet?`). -/

namespace VolumeDriver

namespace Ipv4

theorem octet?_decimal (n : UInt8) : octet? (Numeral.decimal n.toNat) = some n := by
  have h : ∀ n < 256, octet? (Numeral.decimal n) = some (UInt8.ofNat n) := by decide +kernel
  rw [h n.toNat n.toNat_lt, UInt8.ofNat_toNat]

theorem toChars_eq (ip : Ipv4) : ip.toChars =
    Numeral.decimal ip.a.toNat ++ '.' :: (Numeral.decimal ip.b.toNat ++ '.' ::
      (Numeral.decimal ip.c.toNat ++ '.' :: Numeral.decimal ip.d.toNat)) := by
  simp [toChars, List.intercalate]

/-- An address that `toChars` writes is read again. -/
theorem parse?_toChars (ip : Ipv4) : parse? ip.toChars = some ip := by
  have hdot := fun n => Numeral.not_mem_decimal (c := '.') (by decide) n
  rw [parse?, toChars_eq, Cut.splitAll_append (hdot _), Cut.splitAll_append (hdot _),
    Cut.splitAll_append (hdot _), Cut.splitAll_of_not_mem (hdot _)]
  simp only [octet?_decimal]
  rfl

theorem not_mem_toChars {c : Char} (hdigit : c.isDigit = false) (hdot : c ≠ '.') (ip : Ipv4) :
    c ∉ ip.toChars := by
  simp [toChars_eq, Numeral.not_mem_decimal hdigit, hdot]

/-- One of the four numbers is spelt in one way only: what `octet?` reads is in decimal, with no zero in
    front. -/
theorem eq_decimal_of_octet? {s : List Char} {n : UInt8} (h : octet? s = some n) :
    s = Numeral.decimal n.toNat := by
  rw [octet?] at h
  split at h
  · cases h
  · rename_i hplain
    rw [not_or, not_and, Decidable.not_not] at hplain
    split at h
    · rename_i m hm
      split at h
      · rename_i hlt
        cases h
        rw [UInt8.toNat_ofNat', Nat.mod_eq_of_lt hlt]
        exact Numeral.eq_decimal_of_value? hplain.2 hm
      · cases h
    · cases h

/-- **An address is read from the text that `toChars` writes for it and from nothing else.** -/
theorem parse?_eq_some_iff {s : List Char} {ip : Ipv4} : parse? s = some ip ↔ s = ip.toChars := by
  constructor
  · intro h
    rw [parse?] at h
    split at h
    · rename_i a b c d hpieces
      simp only [Option.bind_eq_bind, Option.bind_eq_some_iff, Option.pure_def, Option.some.injEq] at h
      obtain ⟨a', ha, b', hb, c', hc, d', hd, rfl⟩ := h
      rw [← Cut.intercalate_splitAll '.' s, hpieces, eq_decimal_of_octet? ha, eq_decimal_of_octet? hb,
        eq_decimal_of_octet? hc, eq_decimal_of_octet? hd]
      rfl
    · cases h
  · rintro rfl
    exact parse?_toChars ip

end Ipv4

end VolumeDriver
