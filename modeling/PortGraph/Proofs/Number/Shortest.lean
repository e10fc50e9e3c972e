import PortGraph.Number.Decimal
import PortGraph.Proofs.Number.Nearest

/-!
# Shortest decimals read back

The decimal that a number is written with is read back as that number. The search tries each
candidate before it takes it, so all that is left to see is that the exact decimal, which it falls
back upon, reads back too, and that dropping trailing zeros changes nothing.

## Main results

* `Binary.ofDecimal_shift`: zeros that move between digits and exponent make no difference
* `Binary.ofDecimal_shortest`: the shortest decimal of a number reads back
-/

namespace PortGraph

/-! ### Numbers of digits -/

theorem decimalLength_pos (n : Nat) : 0 < decimalLength n := Nat.length_toDigits_pos

theorem decimalLength_le_iff {n k : Nat} (hk : 0 < k) : decimalLength n ≤ k ↔ n < 10 ^ k :=
  Nat.length_toDigits_le_iff (by decide) hk

theorem decimalLength_mul_pow {n : Nat} (hn : n ≠ 0) (k : Nat) :
    decimalLength (n * 10 ^ k) = decimalLength n + k := by
  have hpos := decimalLength_pos n
  refine Nat.le_antisymm ?_ ?_
  · rw [decimalLength_le_iff (by omega), Nat.pow_add]
    exact Nat.mul_lt_mul_of_pos_right ((decimalLength_le_iff hpos).mp (Nat.le_refl _))
      (Nat.pow_pos (by decide))
  · by_contra hlt
    -- One digit less would leave `n` below the power of ten that its own length rules out.
    have hle : n * 10 ^ k < 10 ^ (decimalLength n - 1 + k) := by
      have hpos' := decimalLength_pos (n * 10 ^ k)
      exact (decimalLength_le_iff (by omega)).mp (by omega)
    rw [Nat.pow_add] at hle
    have hn' := Nat.lt_of_mul_lt_mul_right hle
    by_cases hone : decimalLength n - 1 = 0
    · rw [hone] at hn'
      omega
    · have := (decimalLength_le_iff (Nat.pos_of_ne_zero hone)).mpr hn'
      omega

namespace Binary

variable {f : Format}

/-! ### Reading decimals -/

/-- **Zeros that move between digits and exponent make no difference.** -/
theorem ofDecimal_shift (negative : Bool) {d : Decimal} (hd : d.digits ≠ 0) (k : Nat) :
    ofDecimal f negative ⟨d.digits * 10 ^ k, d.exponent - k⟩ = ofDecimal f negative d := by
  have hk : d.digits * 10 ^ k ≠ 0 := Nat.mul_ne_zero hd (Nat.pow_pos (by decide)).ne'
  have horder : (decimalLength (d.digits * 10 ^ k) : Int) + (d.exponent - k) =
      decimalLength d.digits + d.exponent := by
    rw [decimalLength_mul_pow hd]
    omega
  have hnearest : nearest f negative (d.digits * 10 ^ k * Nat.pow 10 (d.exponent - k).toNat)
      (Nat.pow 10 (-(d.exponent - k)).toNat) =
      nearest f negative (d.digits * Nat.pow 10 d.exponent.toNat)
        (Nat.pow 10 (-d.exponent).toNat) := by
    refine nearest_congr (Nat.pow_pos (by decide)) (Nat.pow_pos (by decide)) ?_ negative
    simp only [Nat.pow_eq, Nat.mul_assoc, ← Nat.pow_add]
    congr 2
    omega
  simp only [ofDecimal, horder, hnearest, hd, hk, if_false]

theorem ofDecimal_strip (negative : Bool) (d : Decimal) (fuel : Nat) :
    ofDecimal f negative (d.strip fuel) = ofDecimal f negative d := by
  induction fuel generalizing d with
  | zero => rfl
  | succ fuel ih =>
    rw [Decimal.strip]
    split
    · rename_i h
      have hdigits : d.digits / 10 ≠ 0 := by omega
      have hshift :=
        ofDecimal_shift (f := f) negative (d := ⟨d.digits / 10, d.exponent + 1⟩) hdigits 1
      rw [ih, ← hshift]
      have hback : d.digits / 10 * 10 ^ 1 = d.digits := by omega
      have hexp : d.exponent + 1 - (1 : Nat) = d.exponent := by omega
      simp only [hback, hexp]
    · rfl

/-! ### The exact decimal -/

theorem magnitude_lt (x : Binary f) :
    x.magnitude < 2 ^ (f.digits + (f.highest - f.lowest).toNat) := by
  obtain ⟨hlt, hlow, hhigh, -⟩ := x.canonical
  rw [magnitude, Nat.pow_add]
  refine Nat.mul_lt_mul_of_lt_of_le hlt ?_ (Nat.pow_pos (by decide))
  exact Nat.pow_le_pow_right (by decide) (by omega)

/-- **The exact decimal reads back.** -/
theorem ofDecimal_exactDecimal (hf : f.IsProper) {x : Binary f} (hx : x.mantissa ≠ 0) :
    ofDecimal f x.negative x.exactDecimal = some x := by
  have hlowest := hf.lowest_le
  have hhighest := hf.highest_ge
  have hmag : x.magnitude ≠ 0 := Nat.mul_ne_zero hx (Nat.pow_pos (by decide)).ne'
  have hdigits : x.magnitude * Nat.pow 5 (-f.lowest).toNat ≠ 0 :=
    Nat.mul_ne_zero hmag (Nat.pow_pos (by decide)).ne'
  have hlen : decimalLength (x.magnitude * Nat.pow 5 (-f.lowest).toNat) ≤
      f.digits + (f.highest - f.lowest).toNat + 1 := by
    rw [decimalLength_le_iff (Nat.succ_pos _)]
    calc x.magnitude * 5 ^ (-f.lowest).toNat
        < 2 ^ (f.digits + (f.highest - f.lowest).toNat) * 5 ^ (-f.lowest).toNat :=
          Nat.mul_lt_mul_of_pos_right x.magnitude_lt (Nat.pow_pos (by decide))
      _ ≤ 2 ^ (f.digits + (f.highest - f.lowest).toNat) *
          5 ^ (f.digits + (f.highest - f.lowest).toNat) := by
        refine Nat.mul_le_mul_left _ (Nat.pow_le_pow_right (by decide) ?_)
        omega
      _ = 10 ^ (f.digits + (f.highest - f.lowest).toNat) := by rw [← Nat.mul_pow]
      _ ≤ 10 ^ (f.digits + (f.highest - f.lowest).toNat + 1) :=
        Nat.pow_le_pow_right (by decide) (Nat.le_succ _)
  have hpos := decimalLength_pos (x.magnitude * Nat.pow 5 (-f.lowest).toNat)
  have hquotient : x.magnitude * Nat.pow 5 (-f.lowest).toNat * Nat.pow 10 f.lowest.toNat *
      f.unitsPerOne = x.magnitude * Nat.pow 10 (-f.lowest).toNat := by
    rw [Int.toNat_of_nonpos hlowest, Format.unitsPerOne]
    simp only [Nat.pow_eq, Nat.pow_zero, Nat.mul_one, Nat.mul_assoc, ← Nat.mul_pow]
  rw [ofDecimal, exactDecimal]
  dsimp only
  rw [if_neg hdigits, if_neg (by omega), if_neg (by omega)]
  exact (nearest_congr (Nat.pow_pos (by decide)) unitsPerOne_pos hquotient x.negative).trans
    (nearest_magnitude hf x)

/-! ### The shortest decimal -/

theorem readsBack_of_shortestWith {tie : Decimal.Tie} {x : Binary f} {n : Nat} {d : Decimal}
    (h : x.shortestWith tie n = some d) : x.readsBack d = true := by
  simp only [shortestWith] at h
  split at h
  · cases h
    assumption
  · split at h
    · cases h
      assumption
    · split at h
      · cases h
        assumption
      · cases h

theorem readsBack_searchShortest (hf : f.IsProper) (tie : Decimal.Tie) {x : Binary f}
    (hx : x.mantissa ≠ 0) (n fuel : Nat) : x.readsBack (x.searchShortest tie n fuel) = true := by
  induction fuel generalizing n with
  | zero => exact decide_eq_true (ofDecimal_exactDecimal hf hx)
  | succ fuel ih =>
    rw [searchShortest]
    split
    · rename_i d hd
      exact readsBack_of_shortestWith hd
    · exact ih (n + 1)

/-- **The shortest decimal of a number reads back.** -/
theorem ofDecimal_shortest (hf : f.IsProper) (tie : Decimal.Tie) (x : Binary f) :
    ofDecimal f x.negative (x.shortest tie) = some x := by
  by_cases hx : x.mantissa = 0
  · have hzero : x.isZero = true := decide_eq_true hx
    rw [shortest, if_pos hzero]
    exact zero?_eq_some hx
  · have hzero : x.isZero = false := decide_eq_false hx
    simp only [shortest, hzero, Bool.false_eq_true, if_false, ofDecimal_strip]
    exact of_decide_eq_true (readsBack_searchShortest hf tie hx 1 f.decimalDigits)

/-- Zero is written in the simplest way. -/
theorem exponent_shortest (hf : f.IsProper) (tie : Decimal.Tie) (x : Binary f)
    (h : (x.shortest tie).digits = 0) : (x.shortest tie).exponent = 0 := by
  by_cases hx : x.mantissa = 0
  · have hzero : x.isZero = true := decide_eq_true hx
    rw [shortest, if_pos hzero]
  · have hback := ofDecimal_shortest hf tie x
    rw [ofDecimal, if_pos h, zero?, ofParts?] at hback
    split at hback
    · exact absurd (congrArg Binary.mantissa (Option.some.inj hback)).symm hx
    · cases hback

end Binary

end PortGraph
