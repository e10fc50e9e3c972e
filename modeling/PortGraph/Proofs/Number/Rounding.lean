import PortGraph.Proofs.Number.Nearest
import Mathlib.Tactic.Linarith
import Mathlib.Tactic.Ring

/-!
# How much rounding takes away

The value nearest to a quotient is less than the quotient by half a unit of its last digit at most.
So for a quotient that fills a mantissa it is a small share of the quotient itself, and that is all
that is needed of the operations when several of them follow one another. Only the loss is bounded
here, not the gain.

## Main definitions

* `Binary.abs`: the absolute value of a binary number
* `Binary.Format.share`: the share that rounding may take away
* `Binary.Format.least`: the least quotient that fills a mantissa

## Main results

* `Binary.le_abs_of_nearest`: what is left of a quotient
* `Binary.le_abs_of_ofNat`, `le_abs_of_add`, `le_abs_of_mul`, `le_abs_of_div`: the operations
-/

namespace PortGraph

/-- **When rounding leads to `n` at least**: the quotient is more than `n - 1 / 2`, or just that and
`n` is even. -/
theorem le_roundDiv_iff {num den n : Nat} (hden : 0 < den) :
    n ≤ roundDiv num den ↔
      den * (2 * n) < 2 * num + den ∨ den * (2 * n) = 2 * num + den ∧ n % 2 = 0 := by
  have hdiv := Nat.div_add_mod num den
  have hmod := Nat.mod_lt num hden
  simp only [roundDiv]
  -- Only the whole number above the quotient is in doubt.
  rcases lt_trichotomy n (num / den + 1) with hlt | rfl | hgt
  · have : den * (2 * n) ≤ 2 * (den * (num / den)) := by
      rw [Nat.mul_left_comm]
      exact Nat.mul_le_mul_left 2 (Nat.mul_le_mul_left den (by omega))
    split <;> omega
  · have : den * (2 * (num / den + 1)) = 2 * (den * (num / den)) + 2 * den := by ring
    split <;> omega
  · have : 2 * (den * (num / den)) + 4 * den ≤ den * (2 * n) := by
      calc 2 * (den * (num / den)) + 4 * den = den * (2 * (num / den + 2)) := by ring
        _ ≤ den * (2 * n) := Nat.mul_le_mul_left den (by omega)
    split <;> omega

/-- What is more than a half below a whole number is not rounded to less. -/
theorem le_roundDiv_of_lt {num den n : Nat} (hden : 0 < den) (h : den * (2 * n) < 2 * num + den) :
    n ≤ roundDiv num den :=
  (le_roundDiv_iff hden).mpr (.inl h)

/-- Rounding takes away half at most. -/
theorem le_roundDiv (num : Nat) {den : Nat} (hden : 0 < den) :
    2 * num ≤ den * (2 * roundDiv num den + 1) := by
  by_contra hlt
  have hmore : roundDiv num den + 1 ≤ roundDiv num den := by
    refine le_roundDiv_of_lt hden ?_
    have : den * (2 * (roundDiv num den + 1)) = den * (2 * roundDiv num den + 1) + den := by ring
    omega
  omega

namespace Binary

variable {f : Format} {negative : Bool} {num den : Nat} {x y z : Binary f}

/-- The absolute value. -/
def abs (x : Binary f) : ℚ := x.magnitude / f.unitsPerOne

/-- The share of a quotient that rounding may take away. -/
def Format.share (f : Format) : ℚ := 2 ^ (-f.digits : Int)

/-- The least quotient that fills a mantissa. -/
def Format.least (f : Format) : ℚ := 2 ^ (f.lowest + (f.digits - 1 : Nat))

theorem abs_nonneg (x : Binary f) : 0 ≤ x.abs := by
  rw [abs]
  positivity

theorem Format.share_pos : 0 < f.share := by
  rw [share]
  positivity

theorem parts_of_ofParts? {mantissa : Nat} {exponent : Int}
    (h : ofParts? f negative mantissa exponent = some x) :
    x.negative = negative ∧ x.mantissa = mantissa ∧ x.exponent = exponent := by
  rw [ofParts?] at h
  split at h
  · cases h
    exact ⟨rfl, rfl, rfl⟩
  · cases h

theorem negative_of_nearest (h : nearest f negative num den = some x) : x.negative = negative := by
  simp only [nearest] at h
  split at h
  · cases h
  split at h
  · exact (parts_of_ofParts? h).1
  split at h
  · exact (parts_of_ofParts? h).1
  · exact (parts_of_ofParts? h).1

/-- The nearest value is the quotient in units of its last digit, rounded. -/
theorem abs_of_nearest (hf : f.IsProper) (hnum : num ≠ 0)
    (h : nearest f negative num den = some x) {e : Int}
    (he : max f.lowest (floorLog2 num den - (f.digits - 1 : Nat)) = e) :
    x.abs = roundAt num den e * 2 ^ e := by
  subst he
  rw [abs, magnitude_div_unitsPerOne hf]
  simp only [nearest, hnum, if_false] at h
  split at h
  · cases h
  split at h
  · rename_i hfull
    obtain ⟨-, hm, he⟩ := parts_of_ofParts? h
    -- A mantissa that has become too long is a power of two, and its half is taken.
    have hdigits : (f.digits : Int) = (f.digits - 1 : Nat) + 1 := by
      have := hf.digits_pos
      omega
    rw [hm, he, hfull]
    simp only [Nat.pow_eq, Nat.cast_pow, Nat.cast_ofNat]
    rw [← zpow_natCast, ← zpow_natCast, hdigits, zpow_add₀ two_ne_zero, zpow_add₀ two_ne_zero]
    ring
  · obtain ⟨-, hm, he⟩ := parts_of_ofParts? h
    rw [hm, he]

/-- **What is left of a quotient** that fills a mantissa. -/
theorem le_abs_of_nearest (hf : f.IsProper) (hden : 0 < den) (hleast : f.least ≤ num / den)
    (h : nearest f negative num den = some x) : (num : ℚ) / den * (1 - f.share) ≤ x.abs := by
  have hd : (0 : ℚ) < den := Nat.cast_pos.mpr hden
  have hnum : 0 < num := by
    rw [Nat.pos_iff_ne_zero]
    rintro rfl
    have hpos : 0 < f.least := by
      rw [Format.least]
      positivity
    rw [Nat.cast_zero, zero_div] at hleast
    exact absurd hpos (not_lt.mpr hleast)
  obtain ⟨hlow, hhigh⟩ := floorLog2_spec hnum hden
  have hexp : f.lowest + (f.digits - 1 : Nat) < floorLog2 num den + 1 :=
    (zpow_lt_zpow_iff_right₀ one_lt_two).mp (hleast.trans_lt hhigh)
  obtain ⟨e, he⟩ : ∃ e, floorLog2 num den - (f.digits - 1 : Nat) = e := ⟨_, rfl⟩
  have habs := abs_of_nearest hf hnum.ne' h ((max_eq_right (by omega)).trans he)
  have hround : (num : ℚ) / den ≤ (roundAt num den e + 1 / 2) * 2 ^ e := by
    have hnat := le_roundDiv (num * Nat.pow 2 (-e).toNat)
      (Nat.mul_pos hden (Nat.pow_pos (n := e.toNat) two_pos))
    have hcast := (Nat.cast_le (α := ℚ)).mpr hnat
    push_cast [Nat.pow_eq] at hcast
    rw [zpow_eq_div, div_le_iff₀ hd, ← mul_div_assoc, div_mul_eq_mul_div, le_div_iff₀ (by positivity)]
    rw [roundAt]
    simp only [Nat.pow_eq]
    linarith
  have hshare : (2 : ℚ) ^ e / 2 ≤ num / den * f.share := by
    have hdigits := hf.digits_pos
    have hsplit : (2 : ℚ) ^ e / 2 = 2 ^ floorLog2 num den * f.share := by
      rw [Format.share, ← zpow_add₀ two_ne_zero, div_eq_mul_inv, ← zpow_sub_one₀ two_ne_zero]
      congr 1
      omega
    rw [hsplit]
    exact mul_le_mul_of_nonneg_right hlow Format.share_pos.le
  rw [habs]
  linarith

/-! ### Operations -/

theorem le_abs_of_ofNat (hf : f.IsProper) (hleast : f.least ≤ 1) {n : Nat}
    (h : ofNat f n = some x) : n * (1 - f.share) ≤ x.abs := by
  obtain rfl | hn := Nat.eq_zero_or_pos n
  · rw [Nat.cast_zero, zero_mul]
    exact x.abs_nonneg
  · have hone : f.least ≤ (n : ℚ) / (1 : Nat) := by
      rw [Nat.cast_one, div_one]
      exact hleast.trans (Nat.one_le_cast.mpr hn)
    have hle := le_abs_of_nearest hf Nat.one_pos hone h
    rwa [Nat.cast_one, div_one] at hle

theorem le_abs_of_mul (hf : f.IsProper) (hleast : f.least ≤ x.abs * y.abs)
    (h : x.mul y = some z) : x.abs * y.abs * (1 - f.share) ≤ z.abs := by
  have hq : x.abs * y.abs =
      (x.magnitude * y.magnitude : Nat) / (f.unitsPerOne * f.unitsPerOne : Nat) := by
    rw [abs, abs, div_mul_div_comm, Nat.cast_mul, Nat.cast_mul]
  rw [hq] at hleast ⊢
  exact le_abs_of_nearest hf (Nat.mul_pos unitsPerOne_pos unitsPerOne_pos) hleast h

theorem le_abs_of_div (hf : f.IsProper) (hy : 0 < y.abs)
    (hleast : x.abs = 0 ∨ f.least ≤ x.abs / y.abs) (h : x.div y = some z) :
    x.abs / y.abs * (1 - f.share) ≤ z.abs := by
  have hunits : (f.unitsPerOne : ℚ) ≠ 0 := Nat.cast_ne_zero.mpr unitsPerOne_pos.ne'
  have hq : x.abs / y.abs = x.magnitude / y.magnitude := by
    rw [abs, abs, div_div_div_cancel_right₀ hunits]
  have hden : 0 < y.magnitude := by
    rw [Nat.pos_iff_ne_zero]
    intro hzero
    rw [abs, hzero, Nat.cast_zero, zero_div] at hy
    exact lt_irrefl _ hy
  rcases hleast with hzero | hleast
  · rw [hzero, zero_div, zero_mul]
    exact z.abs_nonneg
  · rw [hq] at hleast ⊢
    exact le_abs_of_nearest hf hden hleast h

/-- The sum of numbers that are not negative. -/
theorem le_abs_of_add (hf : f.IsProper) (hx : x.negative = false) (hy : y.negative = false)
    (hleast : f.least ≤ x.abs + y.abs) (h : x.add y = some z) :
    (x.abs + y.abs) * (1 - f.share) ≤ z.abs := by
  have hsum : x.units + y.units = (x.magnitude + y.magnitude : Nat) := by
    simp [units, hx, hy]
  have hq : x.abs + y.abs = (x.magnitude + y.magnitude : Nat) / f.unitsPerOne := by
    rw [abs, abs, ← add_div, Nat.cast_add]
  have hpos : (0 : ℚ) < x.abs + y.abs := by
    refine lt_of_lt_of_le ?_ hleast
    rw [Format.least]
    positivity
  simp only [add, hsum] at h
  split at h
  · rename_i hzero
    rw [Int.natCast_eq_zero] at hzero
    rw [hq, hzero, Nat.cast_zero, zero_div] at hpos
    exact absurd hpos (lt_irrefl _)
  · rw [Int.natAbs_natCast] at h
    rw [hq] at hleast ⊢
    exact le_abs_of_nearest hf unitsPerOne_pos hleast h

end Binary

end PortGraph
