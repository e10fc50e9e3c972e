import PortGraph.Number.Binary
import Mathlib.Algebra.Order.Field.Power
import Mathlib.Tactic.Positivity
import Mathlib.Tactic.FieldSimp

/-!
# Rounding what needs no rounding

The nearest value to a quotient depends on the quotient alone, not on how it is written, and a value
that a format can hold is its own nearest value.

Both rest on one fact about `Binary.floorLog2`: it finds the one power of two below a quotient and
above its half.

## Main definitions

* `Binary.Format.IsProper`: a format that has room for one and for the finest unit

## Main results

* `Binary.nearest_mul_left`: a common factor of a quotient makes no difference
* `Binary.nearest_magnitude`: a value is nearest to itself
-/

namespace PortGraph

/-- A whole number is nearest to itself. -/
theorem roundDiv_mul_right (m : Nat) {d : Nat} (hd : 0 < d) : roundDiv (m * d) d = m := by
  simp [roundDiv, Nat.mul_div_cancel _ hd, hd]

theorem roundDiv_mul_mul_left {k : Nat} (hk : 0 < k) (num den : Nat) :
    roundDiv (k * num) (k * den) = roundDiv num den := by
  have hlt : 2 * (k * (num % den)) < k * den ↔ 2 * (num % den) < den := by
    rw [Nat.mul_left_comm]
    exact Nat.mul_lt_mul_left hk
  have heq : 2 * (k * (num % den)) = k * den ↔ 2 * (num % den) = den := by
    rw [Nat.mul_left_comm]
    exact Nat.mul_left_cancel_iff hk
  simp only [roundDiv, Nat.mul_div_mul_left _ _ hk, Nat.mul_mod_mul_left, hlt, heq]

namespace Binary

variable {f : Format}

/-- A format with at least one digit whose units reach from one down and from one up. -/
structure Format.IsProper (f : Format) : Prop where
  digits_pos : 0 < f.digits
  lowest_le : f.lowest ≤ 0
  highest_ge : 0 ≤ f.highest

theorem Format.isProper_double : Format.double.IsProper := ⟨by decide, by decide, by decide⟩

/-! ### The order of magnitude of a quotient -/

/-- A power of two as a quotient of naturals. -/
theorem zpow_eq_div (e : Int) : (2 : ℚ) ^ e = 2 ^ e.toNat / 2 ^ (-e).toNat := by
  obtain ⟨n, rfl | rfl⟩ := e.eq_nat_or_neg
  · simp
  · simp

theorem lt_shift_iff {num den : Nat} (hden : 0 < den) (e : Int) :
    num * Nat.pow 2 (-e).toNat < den * Nat.pow 2 e.toNat ↔ (num : ℚ) / den < 2 ^ e := by
  have hd : (0 : ℚ) < den := Nat.cast_pos.mpr hden
  have hp : (0 : ℚ) < 2 ^ (-e).toNat := by positivity
  rw [zpow_eq_div, div_lt_div_iff₀ hd hp, mul_comm ((2 : ℚ) ^ e.toNat)]
  exact_mod_cast Iff.rfl

/-- The exponent of a positive natural. -/
theorem zpow_log2_spec {n : Nat} (hn : 0 < n) :
    (2 : ℚ) ^ (n.log2 : Int) ≤ n ∧ (n : ℚ) < 2 ^ ((n.log2 : Int) + 1) := by
  constructor
  · exact_mod_cast Nat.log2_self_le hn.ne'
  · exact_mod_cast Nat.lt_log2_self

/-- The exponent `e` of a positive quotient: it is at least `2 ^ e` and less than the double. -/
theorem floorLog2_spec {num den : Nat} (hnum : 0 < num) (hden : 0 < den) :
    (2 : ℚ) ^ floorLog2 num den ≤ num / den ∧ (num : ℚ) / den < 2 ^ (floorLog2 num den + 1) := by
  have hd : (0 : ℚ) < den := Nat.cast_pos.mpr hden
  obtain ⟨hlow, hhigh⟩ := zpow_log2_spec hnum
  obtain ⟨hlow', hhigh'⟩ := zpow_log2_spec hden
  have hbelow : (2 : ℚ) ^ ((num.log2 : Int) - den.log2 - 1) ≤ num / den := by
    rw [le_div_iff₀ hd]
    calc (2 : ℚ) ^ ((num.log2 : Int) - den.log2 - 1) * den
        ≤ 2 ^ ((num.log2 : Int) - den.log2 - 1) * 2 ^ ((den.log2 : Int) + 1) := by gcongr
      _ = 2 ^ (num.log2 : Int) := by
        rw [← zpow_add₀ two_ne_zero]
        congr 1
        omega
      _ ≤ num := hlow
  have habove : (num : ℚ) / den < 2 ^ ((num.log2 : Int) - den.log2 + 1) := by
    rw [div_lt_iff₀ hd]
    calc (num : ℚ) < 2 ^ ((num.log2 : Int) + 1) := hhigh
      _ = 2 ^ ((num.log2 : Int) - den.log2 + 1) * 2 ^ (den.log2 : Int) := by
        rw [← zpow_add₀ two_ne_zero]
        congr 1
        omega
      _ ≤ 2 ^ ((num.log2 : Int) - den.log2 + 1) * den := by gcongr
  rw [floorLog2]
  split
  · rename_i h
    rw [lt_shift_iff hden] at h
    exact ⟨hbelow, by rwa [Int.sub_add_cancel]⟩
  · rename_i h
    rw [lt_shift_iff hden, not_lt] at h
    exact ⟨h, habove⟩

theorem floorLog2_eq {num den : Nat} (hnum : 0 < num) (hden : 0 < den) {e : Int}
    (hlow : (2 : ℚ) ^ e ≤ num / den) (hhigh : (num : ℚ) / den < 2 ^ (e + 1)) :
    floorLog2 num den = e := by
  obtain ⟨hlow', hhigh'⟩ := floorLog2_spec hnum hden
  have h₁ : floorLog2 num den < e + 1 :=
    (zpow_lt_zpow_iff_right₀ one_lt_two).mp (hlow'.trans_lt hhigh)
  have h₂ : e < floorLog2 num den + 1 :=
    (zpow_lt_zpow_iff_right₀ one_lt_two).mp (hlow.trans_lt hhigh')
  omega

/-! ### Common factors -/

theorem floorLog2_mul_left {k num den : Nat} (hk : 0 < k) (hnum : 0 < num) (hden : 0 < den) :
    floorLog2 (k * num) (k * den) = floorLog2 num den := by
  have hq : ((k * num : Nat) : ℚ) / (k * den : Nat) = num / den := by
    push_cast
    exact mul_div_mul_left _ _ (Nat.cast_ne_zero.mpr hk.ne')
  obtain ⟨hlow, hhigh⟩ := floorLog2_spec hnum hden
  exact floorLog2_eq (Nat.mul_pos hk hnum) (Nat.mul_pos hk hden) (hq ▸ hlow) (hq ▸ hhigh)

theorem roundAt_mul_left {k : Nat} (hk : 0 < k) (num den : Nat) (e : Int) :
    roundAt (k * num) (k * den) e = roundAt num den e := by
  rw [roundAt, roundAt, Nat.mul_assoc, Nat.mul_assoc, roundDiv_mul_mul_left hk]

/-- **A common factor of a quotient makes no difference** to what it is rounded to. -/
theorem nearest_mul_left {k : Nat} (hk : 0 < k) (negative : Bool) (num den : Nat) :
    nearest f negative (k * num) (k * den) = nearest f negative num den := by
  rcases Nat.eq_zero_or_pos den with rfl | hden
  · simp [nearest]
  rcases Nat.eq_zero_or_pos num with rfl | hnum
  · simp [nearest, hk.ne', hden.ne']
  simp only [nearest, Nat.mul_eq_zero, hk.ne', hnum.ne', hden.ne', or_self, if_false,
    floorLog2_mul_left hk hnum hden, roundAt_mul_left hk]

/-- Equal quotients have the same nearest value. -/
theorem nearest_congr {num den num' den' : Nat} (hden : 0 < den) (hden' : 0 < den')
    (h : num * den' = num' * den) (negative : Bool) :
    nearest f negative num den = nearest f negative num' den' := by
  rw [← nearest_mul_left hden', ← nearest_mul_left hden (f := f) negative num' den',
    Nat.mul_comm den' num, h, Nat.mul_comm num', Nat.mul_comm den']

/-! ### Values of a format -/

theorem ofParts?_eq_some (x : Binary f) : ofParts? f x.negative x.mantissa x.exponent = some x :=
  dif_pos x.canonical

/-- A zero has the finest unit. -/
theorem exponent_eq_of_isZero {x : Binary f} (h : x.mantissa = 0) :
    x.exponent = f.lowest := by
  obtain ⟨-, -, -, hlowest | hfull⟩ := x.canonical
  · exact hlowest
  · rw [h, Nat.le_zero] at hfull
    exact absurd hfull (Nat.pow_pos (by decide)).ne'

theorem zero?_eq_some {x : Binary f} (h : x.mantissa = 0) :
    zero? f x.negative = some x := by
  have hx := ofParts?_eq_some x
  rwa [h, exponent_eq_of_isZero h] at hx

/-- The magnitude of a value over the number of units in one is its mantissa, shifted. -/
theorem magnitude_shift (hf : f.IsProper) (x : Binary f) :
    x.magnitude * Nat.pow 2 (-x.exponent).toNat =
      x.mantissa * (f.unitsPerOne * Nat.pow 2 x.exponent.toNat) := by
  obtain ⟨-, hlow, -, -⟩ := x.canonical
  have hlowest := hf.lowest_le
  simp only [magnitude, Format.unitsPerOne, Nat.pow_eq, Nat.mul_assoc, ← Nat.pow_add]
  congr 2
  omega

theorem unitsPerOne_pos : 0 < f.unitsPerOne := Nat.pow_pos (by decide)

/-- The magnitude of a value, in ones. -/
theorem magnitude_div_unitsPerOne (hf : f.IsProper) (x : Binary f) :
    (x.magnitude : ℚ) / f.unitsPerOne = x.mantissa * 2 ^ x.exponent := by
  have hshift := congrArg (Nat.cast (R := ℚ)) (magnitude_shift hf x)
  simp only [Nat.pow_eq, Nat.cast_mul, Nat.cast_pow, Nat.cast_ofNat] at hshift
  have hu : (f.unitsPerOne : ℚ) ≠ 0 := Nat.cast_ne_zero.mpr unitsPerOne_pos.ne'
  rw [zpow_eq_div, div_eq_iff hu]
  field_simp
  rw [hshift, mul_right_comm, mul_assoc]

/-- The exponent of a value is the one that rounding picks. -/
theorem exponent_eq_max (hf : f.IsProper) {x : Binary f} (h : x.mantissa ≠ 0) :
    max f.lowest (floorLog2 x.magnitude f.unitsPerOne - (f.digits - 1 : Nat)) = x.exponent := by
  have hm : 0 < x.mantissa := Nat.pos_of_ne_zero h
  have hmag : 0 < x.magnitude := Nat.mul_pos hm (Nat.pow_pos (by decide))
  have hq := magnitude_div_unitsPerOne hf x
  have hfloor : floorLog2 x.magnitude f.unitsPerOne = x.mantissa.log2 + x.exponent := by
    refine floorLog2_eq hmag unitsPerOne_pos ?_ ?_
    · rw [hq, zpow_add₀ two_ne_zero]
      gcongr
      exact_mod_cast Nat.log2_self_le h
    · rw [hq, add_right_comm, zpow_add₀ two_ne_zero]
      gcongr
      exact_mod_cast Nat.lt_log2_self
  obtain ⟨hlt, hlow, -, hcanonical⟩ := x.canonical
  have hlog : x.mantissa.log2 < f.digits := (Nat.log2_lt h).mpr hlt
  rw [hfloor]
  rcases hcanonical with hlowest | hfull
  · omega
  · have : f.digits - 1 ≤ x.mantissa.log2 := (Nat.le_log2 h).mpr hfull
    omega

/-- **A value is nearest to itself.** -/
theorem nearest_magnitude (hf : f.IsProper) (x : Binary f) :
    nearest f x.negative x.magnitude f.unitsPerOne = some x := by
  by_cases h : x.mantissa = 0
  · have hmag : x.magnitude = 0 := by rw [magnitude, h, Nat.zero_mul]
    rw [nearest, if_neg unitsPerOne_pos.ne', if_pos hmag]
    exact zero?_eq_some h
  · have hmag : x.magnitude ≠ 0 := Nat.mul_ne_zero h (Nat.pow_pos (by decide)).ne'
    have hround : roundAt x.magnitude f.unitsPerOne x.exponent = x.mantissa := by
      rw [roundAt, magnitude_shift hf, roundDiv_mul_right]
      exact Nat.mul_pos unitsPerOne_pos (Nat.pow_pos (by decide))
    rw [nearest, if_neg unitsPerOne_pos.ne', if_neg hmag]
    simp only [exponent_eq_max hf h, hround]
    rw [if_neg x.canonical.1.ne, ofParts?_eq_some]

end Binary

end PortGraph
