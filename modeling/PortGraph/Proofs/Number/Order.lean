import PortGraph.Proofs.Number.Range

/-!
# The order of rounded numbers

Rounding keeps the order of quotients, though it may make equal what was not. So of two whole
numbers the nearest values are in their order, or equal; they are the whole numbers themselves as
long as these have no more digits than a mantissa, and are otherwise off by half a unit of the last
digit at most.

A sum is the exact sum, rounded. It is in range if and only if the exact sum is.

## Main definitions

* `Binary.value`: the real number that a binary number is

## Main results

* `Binary.abs_le_abs_of_nearest`: rounding keeps the order
* `Binary.lt_iff_of_ofInt`: when the nearest values of two whole numbers are in strict order
* `Binary.value_eq_self_of_ofInt`, `abs_value_sub_le_of_ofInt`: how near the nearest value is
* `Binary.exists_add_iff`: when a sum is in range
-/

namespace PortGraph

namespace Binary

variable {f : Format} {num den num' den' : Nat} {x y : Binary f}

/-! ### Quotients -/

theorem pos_of_div_le_div (hnum : 0 < num) (hden : 0 < den)
    (h : (num : ℚ) / den ≤ num' / den') : 0 < num' := by
  rw [Nat.pos_iff_ne_zero]
  rintro rfl
  rw [Nat.cast_zero, zero_div] at h
  exact absurd (div_pos (Nat.cast_pos.mpr hnum) (Nat.cast_pos.mpr hden)) (not_lt.mpr h)

/-- The exponent that rounding picks grows with the quotient. -/
theorem floorLog2_le_floorLog2 (hnum : 0 < num) (hden : 0 < den) (hden' : 0 < den')
    (h : (num : ℚ) / den ≤ num' / den') : floorLog2 num den ≤ floorLog2 num' den' := by
  have hnum' := pos_of_div_le_div hnum hden h
  have hlt := (floorLog2_spec hnum hden).1.trans_lt (h.trans_lt (floorLog2_spec hnum' hden').2)
  have := (zpow_lt_zpow_iff_right₀ (one_lt_two (α := ℚ))).mp hlt
  omega

theorem abs_of_nearest_zero {negative : Bool} (h : nearest f negative 0 den = some x) :
    x.abs = 0 := by
  simp only [nearest] at h
  split at h
  · cases h
  · obtain ⟨-, hm, -⟩ := parts_of_ofParts? h
    rw [abs, magnitude, hm, Nat.zero_mul, Nat.cast_zero, zero_div]

/-- **Rounding keeps the order.** -/
theorem abs_le_abs_of_nearest (hf : f.IsProper) (hden : 0 < den) (hden' : 0 < den')
    (h : (num : ℚ) / den ≤ num' / den') {negative negative' : Bool}
    (hx : nearest f negative num den = some x) (hy : nearest f negative' num' den' = some y) :
    x.abs ≤ y.abs := by
  rcases Nat.eq_zero_or_pos num with rfl | hnum
  · rw [abs_of_nearest_zero hx]
    exact y.abs_nonneg
  have hnum' := pos_of_div_le_div hnum hden h
  have hlog := floorLog2_le_floorLog2 hnum hden hden' h
  obtain ⟨e, he⟩ : ∃ e, max f.lowest (floorLog2 num den - (f.digits - 1 : Nat)) = e := ⟨_, rfl⟩
  obtain ⟨e', he'⟩ : ∃ e, max f.lowest (floorLog2 num' den' - (f.digits - 1 : Nat)) = e := ⟨_, rfl⟩
  rw [abs_of_nearest hf hnum.ne' hx he, abs_of_nearest hf hnum'.ne' hy he']
  have hpos : (0 : ℚ) < 2 ^ e := by positivity
  have hpos' : (0 : ℚ) < 2 ^ e' := by positivity
  rcases (show e ≤ e' by omega).lt_or_eq with hlt | rfl
  · -- A coarser unit is picked only from a power of two on, which lies in between.
    have hdigits : (f.digits : Int) = (f.digits - 1 : Nat) + 1 := by
      have := hf.digits_pos
      omega
    have hlowest : f.lowest ≤ e := he ▸ le_max_left ..
    have hmost := (roundAt_bounds hf hnum hden he).1
    have hfull := ((roundAt_bounds hf hnum' hden' he').2.resolve_left (by omega)).2
    calc (roundAt num den e : ℚ) * 2 ^ e ≤ 2 ^ f.digits * 2 ^ e :=
          mul_le_mul_of_nonneg_right (by exact_mod_cast hmost) hpos.le
      _ = 2 ^ ((f.digits : Int) + e) := by rw [zpow_add₀ two_ne_zero, zpow_natCast]
      _ ≤ 2 ^ (((f.digits - 1 : Nat) : Int) + e') := zpow_le_zpow_right₀ one_le_two (by omega)
      _ = 2 ^ (f.digits - 1) * 2 ^ e' := by rw [zpow_add₀ two_ne_zero, zpow_natCast]
      _ ≤ roundAt num' den' e' * 2 ^ e' :=
          mul_le_mul_of_nonneg_right (by exact_mod_cast hfull) hpos'.le
  · exact mul_le_mul_of_nonneg_right
      (Nat.cast_le.mpr (roundAt_le_roundAt hden hden' h e)) hpos.le

/-! ### Values -/

/-- The real value. -/
def value (x : Binary f) : ℚ := x.units / f.unitsPerOne

theorem value_eq (x : Binary f) : x.value = if x.negative then -x.abs else x.abs := by
  rw [value, units, abs]
  split
  · rw [Int.cast_neg, Int.cast_natCast, neg_div]
  · rw [Int.cast_natCast]

theorem lt_iff_value_lt : x.lt y = true ↔ x.value < y.value := by
  have hunits : (0 : ℚ) < f.unitsPerOne := Nat.cast_pos.mpr unitsPerOne_pos
  rw [lt, decide_eq_true_iff, value, value, div_lt_div_iff_of_pos_right hunits, Int.cast_lt]

/-! ### Whole numbers -/

theorem value_eq_of_ofInt {i : Int} (h : ofInt f i = some x) :
    x.value = if i < 0 then -x.abs else x.abs := by
  rw [value_eq, negative_of_nearest h]
  simp only [decide_eq_true_eq]

/-- **The nearest values of whole numbers are in their order.** -/
theorem value_le_value_of_ofInt (hf : f.IsProper) {i j : Int} (h : i ≤ j)
    (hx : ofInt f i = some x) (hy : ofInt f j = some y) : x.value ≤ y.value := by
  have hquot {m n : Nat} (h : m ≤ n) : (m : ℚ) / (1 : Nat) ≤ n / (1 : Nat) := by
    rw [Nat.cast_one, div_one, div_one]
    exact Nat.cast_le.mpr h
  have habs := x.abs_nonneg
  have habs' := y.abs_nonneg
  rw [ofInt] at hx hy
  rw [value_eq, value_eq, negative_of_nearest hx, negative_of_nearest hy]
  by_cases hi : i < 0 <;> by_cases hj : j < 0 <;>
    simp only [hi, hj, decide_true, decide_false, if_true, Bool.false_eq_true, if_false]
  · have := abs_le_abs_of_nearest hf Nat.one_pos Nat.one_pos (hquot (by omega)) hy hx
    linarith
  · linarith
  · omega
  · exact abs_le_abs_of_nearest hf Nat.one_pos Nat.one_pos (hquot (by omega)) hx hy

/-- **When the nearest values of whole numbers are in strict order**: the numbers are, and rounding
has not made them equal. -/
theorem lt_iff_of_ofInt (hf : f.IsProper) {i j : Int} (hx : ofInt f i = some x)
    (hy : ofInt f j = some y) : x.lt y = true ↔ i < j ∧ x.value ≠ y.value := by
  rw [lt_iff_value_lt]
  constructor
  · refine fun hlt => ⟨?_, hlt.ne⟩
    by_contra hle
    exact absurd hlt (not_lt.mpr (value_le_value_of_ofInt hf (not_lt.mp hle) hy hx))
  · exact fun ⟨hlt, hne⟩ => lt_of_le_of_ne (value_le_value_of_ofInt hf hlt.le hx hy) hne

/-- Rounding takes away or adds half a unit of the last digit at most. -/
theorem abs_sub_roundAt_le (num : Nat) (hden : 0 < den) (e : Int) :
    |(roundAt num den e : ℚ) * 2 ^ e - num / den| ≤ 2 ^ e / 2 := by
  have hlow : ((roundAt num den e : ℚ) - 1 / 2) * 2 ^ e ≤ num / den :=
    ((le_roundAt_iff hden).mp le_rfl).elim le_of_lt fun heq => heq.1.le
  have hhigh := mt (le_roundAt_iff hden).mpr (Nat.not_succ_le_self (roundAt num den e))
  rw [not_or, not_lt, Nat.cast_succ] at hhigh
  rw [abs_le]
  constructor <;> linarith [hhigh.1]

theorem abs_eq_of_nearest (hf : f.IsProper) (hnum : num ≠ 0) (hden : 0 < den) {negative : Bool}
    (h : nearest f negative num den = some x) {e : Int}
    (he : max f.lowest (floorLog2 num den - (f.digits - 1 : Nat)) = e) {n : Nat}
    (hn : (num : ℚ) / den = n * 2 ^ e) : x.abs = num / den := by
  rw [abs_of_nearest hf hnum h he, hn,
    (roundAt_le hden hn.le).antisymm (le_roundAt hden hn.ge)]

/-- The exponent that rounding picks for a whole number of few digits. -/
theorem exponent_le_of_lt (hf : f.IsProper) {n k : Nat} (hpos : 0 < n)
    (hn : n < 2 ^ (f.digits + k)) :
    max f.lowest (floorLog2 n 1 - (f.digits - 1 : Nat)) ≤ k := by
  have hlow := (floorLog2_spec hpos Nat.one_pos).1
  have hbound : (n : ℚ) / (1 : Nat) < 2 ^ ((f.digits + k : Nat) : Int) := by
    rw [Nat.cast_one, div_one, zpow_natCast]
    exact_mod_cast hn
  have hlog := (zpow_lt_zpow_iff_right₀ (one_lt_two (α := ℚ))).mp (hlow.trans_lt hbound)
  have hlowest := hf.lowest_le
  have hdigits := hf.digits_pos
  omega

/-- A whole number is off its nearest value by half a unit of its last digit at most. -/
theorem abs_sub_natAbs_le_of_ofInt (hf : f.IsProper) {i : Int} {k : Nat}
    (hi : i.natAbs < 2 ^ (f.digits + k)) (h : ofInt f i = some x) :
    |x.abs - i.natAbs| ≤ 2 ^ k / 2 := by
  rcases Nat.eq_zero_or_pos i.natAbs with hzero | hpos
  · rw [ofInt, hzero] at h
    rw [abs_of_nearest_zero h, hzero, Nat.cast_zero, sub_zero, abs_zero]
    positivity
  · obtain ⟨e, he⟩ : ∃ e, max f.lowest (floorLog2 i.natAbs 1 - (f.digits - 1 : Nat)) = e :=
      ⟨_, rfl⟩
    have hexp : e ≤ k := he ▸ exponent_le_of_lt hf hpos hi
    have herror := abs_sub_roundAt_le i.natAbs Nat.one_pos e
    rw [← abs_of_nearest hf hpos.ne' h he, Nat.cast_one, div_one] at herror
    refine herror.trans ?_
    gcongr
    rw [← zpow_natCast]
    exact zpow_le_zpow_right₀ one_le_two hexp

/-- A whole number whose digits fit into a mantissa is its own nearest value. -/
theorem abs_eq_natAbs_of_ofInt (hf : f.IsProper) {i : Int} (hi : i.natAbs ≤ 2 ^ f.digits)
    (h : ofInt f i = some x) : x.abs = i.natAbs := by
  rcases Nat.eq_zero_or_pos i.natAbs with hzero | hpos
  · rw [ofInt, hzero] at h
    rw [abs_of_nearest_zero h, hzero, Nat.cast_zero]
  obtain ⟨e, he⟩ : ∃ e, max f.lowest (floorLog2 i.natAbs 1 - (f.digits - 1 : Nat)) = e := ⟨_, rfl⟩
  suffices hunits : ∃ n : Nat, (i.natAbs : ℚ) / (1 : Nat) = n * 2 ^ e by
    obtain ⟨n, hn⟩ := hunits
    rw [abs_eq_of_nearest hf hpos.ne' Nat.one_pos h he hn, Nat.cast_one, div_one]
  rw [Nat.cast_one, div_one]
  rcases hi.lt_or_eq with hlt | heq
  · have hexp : e ≤ (0 : Nat) := he ▸ exponent_le_of_lt hf hpos hlt
    refine ⟨i.natAbs * 2 ^ (-e).toNat, ?_⟩
    rw [Nat.cast_mul, Nat.cast_pow, Nat.cast_ofNat, ← zpow_natCast, mul_assoc,
      ← zpow_add₀ two_ne_zero, show ((-e).toNat : Int) + e = 0 by omega, zpow_zero, mul_one]
  · -- There is one digit too many, and the last one is zero.
    have hexp : e ≤ (1 : Nat) := by
      refine he ▸ exponent_le_of_lt hf hpos ?_
      rw [heq]
      exact Nat.pow_lt_pow_right (by decide) (Nat.lt_succ_self _)
    refine ⟨2 ^ (f.digits - e).toNat, ?_⟩
    have := hf.digits_pos
    rw [heq, Nat.cast_pow, Nat.cast_pow, Nat.cast_ofNat, ← zpow_natCast, ← zpow_natCast,
      ← zpow_add₀ two_ne_zero]
    congr 1
    omega

/-- The sign is no matter of rounding. -/
theorem abs_value_sub_of_ofInt {i : Int} (h : ofInt f i = some x) :
    |x.value - i| = |x.abs - i.natAbs| := by
  rw [value_eq_of_ofInt h, Nat.cast_natAbs, Int.cast_abs]
  split
  · rename_i hneg
    rw [abs_of_neg (Int.cast_lt_zero.mpr hneg), sub_neg_eq_add, ← neg_add', abs_neg]
  · rename_i hnonneg
    rw [abs_of_nonneg (Int.cast_nonneg (not_lt.mp hnonneg))]

/-- **A whole number whose digits fit into a mantissa is its own nearest value.** -/
theorem value_eq_self_of_ofInt (hf : f.IsProper) {i : Int} (hi : i.natAbs ≤ 2 ^ f.digits)
    (h : ofInt f i = some x) : x.value = i := by
  have hexact := abs_value_sub_of_ofInt h
  rwa [abs_eq_natAbs_of_ofInt hf hi h, sub_self, abs_zero, abs_eq_zero, sub_eq_zero] at hexact

/-- **How far a whole number is off its nearest value.** -/
theorem abs_value_sub_le_of_ofInt (hf : f.IsProper) {i : Int} {k : Nat}
    (hi : i.natAbs < 2 ^ (f.digits + k)) (h : ofInt f i = some x) :
    |x.value - i| ≤ 2 ^ k / 2 := by
  rw [abs_value_sub_of_ofInt h]
  exact abs_sub_natAbs_le_of_ofInt hf hi h

/-! ### Sums -/

/-- **A sum is in range if and only if the exact sum is below the limit.** -/
theorem exists_add_iff (hf : f.IsProper) (hunits : f.lowest < f.highest) (x y : Binary f) :
    (∃ z, x.add y = some z) ↔ |x.value + y.value| < f.limit := by
  have hsum : |x.value + y.value| = ((x.units + y.units).natAbs : ℚ) / f.unitsPerOne := by
    rw [value, value, ← add_div, ← Int.cast_add, abs_div, Nat.abs_cast, Nat.cast_natAbs,
      Int.cast_abs]
  rw [hsum, ← exists_nearest_iff hf hunits unitsPerOne_pos (decide (x.units + y.units < 0))]
  simp only [add]
  split
  · rename_i hzero
    refine iff_of_true (exists_zero? hunits.le _) ?_
    rw [exists_nearest_iff hf hunits unitsPerOne_pos, hzero, Int.natAbs_zero, Nat.cast_zero,
      zero_div]
    exact limit_pos hf
  · rfl

theorem natAbs_units (x : Binary f) : x.units.natAbs = x.magnitude := by
  rw [units]
  split
  · rw [Int.natAbs_neg, Int.natAbs_natCast]
  · rw [Int.natAbs_natCast]

theorem units_lt_zero_iff (h : x.units ≠ 0) : x.units < 0 ↔ x.negative = true := by
  rw [units] at h ⊢
  cases hnegative : x.negative with
  | false =>
    simp only [Bool.false_eq_true, if_false, iff_false]
    omega
  | true =>
    simp only [hnegative, if_true, iff_true] at h ⊢
    omega

theorem mantissa_eq_zero (h : x.units = 0) : x.mantissa = 0 := by
  have hmagnitude := natAbs_units x
  rw [h, Int.natAbs_zero, magnitude, zero_eq_mul] at hmagnitude
  exact hmagnitude.resolve_right (Nat.pow_pos (by decide)).ne'

/-- A negative zero makes no difference to what is added to it. -/
theorem add_of_mantissa_eq_zero (hf : f.IsProper) (hnegative : x.negative = true)
    (hzero : x.mantissa = 0) (y : Binary f) : x.add y = some y := by
  have hunits : x.units = 0 := by simp [units, magnitude, hzero]
  simp only [add, hunits, zero_add, hnegative, Bool.true_and]
  split
  · rename_i hy
    exact zero?_eq_some (mantissa_eq_zero hy)
  · rename_i hy
    have hsign : decide (y.units < 0) = y.negative := by
      rw [Bool.eq_iff_iff, decide_eq_true_iff, units_lt_zero_iff hy]
    rw [hsign, natAbs_units, nearest_magnitude hf]

end Binary

end PortGraph
