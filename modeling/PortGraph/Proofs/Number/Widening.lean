import PortGraph.Proofs.Number.Nearest

/-!
# To a wider format and back

A format that has more digits and a larger range holds every value of a narrower one. To convert a
value to it loses nothing, so that converting it back gives the value again.

## Main definitions

* `Binary.Format.IsWithin`: each value of a format is one of another format as well

## Main results

* `Binary.exists_widened`: the same value in the wider format
* `Binary.exists_convert`: to the wider format and back
-/

namespace PortGraph.Binary

variable {f g : Format}

/-- Each value of the format is one of the other, in which there is room to fill a mantissa. -/
structure Format.IsWithin (f g : Format) : Prop where
  digits_le : f.digits ≤ g.digits
  lowest_le : g.lowest + (g.digits - 1 : Nat) ≤ f.lowest
  highest_le : f.highest ≤ g.highest

theorem Format.isProper_single : Format.single.IsProper := ⟨by decide, by decide, by decide⟩

theorem Format.single_isWithin_double : Format.single.IsWithin .double :=
  ⟨by decide, by decide, by decide⟩

/-- A mantissa that is not zero is filled up by doubling it. -/
theorem exists_filled {mantissa digits : Nat} (hpos : mantissa ≠ 0) (hlt : mantissa < 2 ^ digits) :
    ∃ k ≤ digits - 1, mantissa * 2 ^ k < 2 ^ digits ∧ 2 ^ (digits - 1) ≤ mantissa * 2 ^ k := by
  have hlog : mantissa.log2 < digits := (Nat.log2_lt hpos).mpr hlt
  refine ⟨digits - 1 - mantissa.log2, Nat.sub_le _ _, ?_, ?_⟩
  · calc mantissa * 2 ^ (digits - 1 - mantissa.log2)
        < 2 ^ (mantissa.log2 + 1) * 2 ^ (digits - 1 - mantissa.log2) :=
          Nat.mul_lt_mul_of_pos_right Nat.lt_log2_self (Nat.two_pow_pos _)
      _ = 2 ^ digits := by
        rw [← Nat.pow_add]
        congr 1
        omega
  · calc 2 ^ (digits - 1) = 2 ^ mantissa.log2 * 2 ^ (digits - 1 - mantissa.log2) := by
          rw [← Nat.pow_add]
          congr 1
          omega
      _ ≤ mantissa * 2 ^ (digits - 1 - mantissa.log2) :=
        Nat.mul_le_mul_right _ (Nat.log2_self_le hpos)

/-- **The same value in the wider format.** Its count of finest units differs from the one before by
just the number of units that a former unit is. -/
theorem exists_widened (h : f.IsWithin g) (x : Binary f) :
    ∃ y : Binary g, y.negative = x.negative ∧
      y.magnitude = x.magnitude * 2 ^ (f.lowest - g.lowest).toNat := by
  obtain ⟨hlt, hlow, hhigh, -⟩ := x.canonical
  have hlowest := h.lowest_le
  have hhighest := h.highest_le
  by_cases hzero : x.mantissa = 0
  · refine ⟨⟨x.negative, 0, g.lowest, Nat.two_pow_pos _, le_rfl, by omega, .inl rfl⟩, rfl, ?_⟩
    rw [magnitude, magnitude, hzero, Nat.zero_mul, Nat.zero_mul, Nat.zero_mul]
  · have hwide : x.mantissa < 2 ^ g.digits :=
      hlt.trans_le (Nat.pow_le_pow_right (by decide) h.digits_le)
    obtain ⟨k, hk, hmost, hfull⟩ := exists_filled hzero hwide
    refine ⟨⟨x.negative, x.mantissa * 2 ^ k, x.exponent - k, hmost, by omega, by omega, .inr hfull⟩,
      rfl, ?_⟩
    simp only [magnitude, Nat.pow_eq]
    rw [Nat.mul_assoc, Nat.mul_assoc, ← Nat.pow_add, ← Nat.pow_add]
    congr 2
    omega

/-- **To the wider format and back** is where one was before. -/
theorem exists_convert (hf : f.IsProper) (hg : g.IsProper) (h : f.IsWithin g) (x : Binary f) :
    ∃ y : Binary g, x.convert g = some y ∧ y.convert f = some x := by
  obtain ⟨y, hnegative, hmagnitude⟩ := exists_widened h x
  have hunits : g.unitsPerOne = f.unitsPerOne * 2 ^ (f.lowest - g.lowest).toNat := by
    have hlowest := h.lowest_le
    have hf := hf.lowest_le
    simp only [Format.unitsPerOne, Nat.pow_eq]
    rw [← Nat.pow_add]
    congr 1
    omega
  have hequal : x.magnitude * g.unitsPerOne = y.magnitude * f.unitsPerOne := by
    rw [hmagnitude, hunits, Nat.mul_assoc, Nat.mul_comm f.unitsPerOne]
  refine ⟨y, ?_, ?_⟩
  · rw [convert, nearest_congr unitsPerOne_pos unitsPerOne_pos hequal, ← hnegative,
      nearest_magnitude hg]
  · rw [convert, hnegative, nearest_congr unitsPerOne_pos unitsPerOne_pos hequal.symm,
      nearest_magnitude hf]

end PortGraph.Binary
