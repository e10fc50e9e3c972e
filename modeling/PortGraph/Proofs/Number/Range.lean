import PortGraph.Json.Token
import PortGraph.Proofs.Number.Rounding

/-!
# Within the range of a format

A quotient has a nearest value in a format if and only if it is below a limit, half a unit beyond
the greatest value; then nothing is lost but digits. Whole numbers as documents have them, of 64
bits with or without a sign, are far below the limit of the 64-bit fractions, and each can be read
as one.

The model lets a whole number be any integer. That those which are read from text have 64 bits is a
fact about reading.

## Main definitions

* `Binary.Format.limit`: the least magnitude that is out of range
* `Json.Number.IsWord`: a whole number has 64 bits, with or without a sign

## Main results

* `Binary.le_roundAt_iff`: what a quotient is rounded to
* `Binary.exists_nearest_iff`: a quotient has a nearest value if and only if it is below the limit
* `Json.Literal.isWord_of_number?`: a number that is read has 64 bits
* `Json.Number.IsWord.exists_toDouble?`: a number of 64 bits can be read as a fraction
-/

namespace PortGraph

namespace Binary

variable {f : Format} {num den num' den' : Nat}

/-! ### Rounding to a given unit -/

/-- A quotient in units of `2 ^ e`. -/
theorem shift_div_shift (num : Nat) {den : Nat} (hden : 0 < den) (e : Int) :
    ((num * Nat.pow 2 (-e).toNat : Nat) : ℚ) / (den * Nat.pow 2 e.toNat : Nat) =
      num / den / 2 ^ e := by
  have hd : (den : ℚ) ≠ 0 := Nat.cast_ne_zero.mpr hden.ne'
  rw [zpow_eq_div]
  push_cast [Nat.pow_eq]
  field_simp

/-- **What a quotient is rounded to** in units of `2 ^ e`: it is at least `n` if the quotient is
more than half a unit below `n`, or just that and `n` is even. -/
theorem le_roundAt_iff (hden : 0 < den) {n : Nat} {e : Int} :
    n ≤ roundAt num den e ↔
      ((n : ℚ) - 1 / 2) * 2 ^ e < num / den ∨
        ((n : ℚ) - 1 / 2) * 2 ^ e = num / den ∧ n % 2 = 0 := by
  have hunit : (0 : ℚ) < 2 ^ e := by positivity
  have hD : 0 < den * Nat.pow 2 e.toNat := Nat.mul_pos hden (Nat.pow_pos (by decide))
  have hDq : (0 : ℚ) < (den * Nat.pow 2 e.toNat : Nat) := Nat.cast_pos.mpr hD
  rw [roundAt, le_roundDiv_iff hD, ← lt_div_iff₀ hunit, ← eq_div_iff hunit.ne',
    ← shift_div_shift num hden, lt_div_iff₀ hDq, eq_div_iff hDq.ne', ← Nat.cast_inj (R := ℚ),
    ← Nat.cast_lt (α := ℚ)]
  generalize den * Nat.pow 2 e.toNat = d
  generalize num * Nat.pow 2 (-e).toNat = m
  push_cast
  have hlt : (d : ℚ) * (2 * n) < 2 * m + d ↔ ((n : ℚ) - 1 / 2) * d < m := by
    constructor <;> intro h <;> linarith
  have heq : (d : ℚ) * (2 * n) = 2 * m + d ↔ ((n : ℚ) - 1 / 2) * d = m := by
    constructor <;> intro h <;> linarith
  rw [hlt, heq]

/-- Rounding to the same unit keeps the order. -/
theorem roundAt_le_roundAt (hden : 0 < den) (hden' : 0 < den')
    (h : (num : ℚ) / den ≤ num' / den') (e : Int) : roundAt num den e ≤ roundAt num' den' e := by
  refine (le_roundAt_iff hden').mpr ?_
  rcases (le_roundAt_iff hden).mp le_rfl with hlt | ⟨heq, heven⟩
  · exact .inl (hlt.trans_le h)
  · rcases (heq.trans_le h).lt_or_eq with hlt | heq
    · exact .inl hlt
    · exact .inr ⟨heq, heven⟩

/-- Rounding does not lead past a whole number of units that is not less. -/
theorem roundAt_le (hden : 0 < den) {n : Nat} {e : Int} (h : (num : ℚ) / den ≤ n * 2 ^ e) :
    roundAt num den e ≤ n := by
  have hunit : (0 : ℚ) < 2 ^ e := by positivity
  by_contra hlt
  have hmore := (le_roundAt_iff hden).mp (Nat.succ_le_of_lt (not_le.mp hlt))
  push_cast at hmore
  have : ((n : ℚ) + 1 - 1 / 2) * 2 ^ e ≤ num / den :=
    hmore.elim le_of_lt fun heq => heq.1.le
  linarith

/-- Rounding does not lead below a whole number of units that is not greater. -/
theorem le_roundAt (hden : 0 < den) {n : Nat} {e : Int} (h : n * 2 ^ e ≤ (num : ℚ) / den) :
    n ≤ roundAt num den e := by
  have hunit : (0 : ℚ) < 2 ^ e := by positivity
  refine (le_roundAt_iff hden).mpr (.inl ?_)
  linarith

/-! ### The limit -/

/-- The least magnitude that is out of range: half a unit beyond the greatest value, where a tie
goes to the even mantissa beyond it. -/
def Format.limit (f : Format) : ℚ := (2 ^ f.digits - 1 / 2) * 2 ^ f.highest

/-- The exponent that rounding picks for a quotient, before a mantissa that has become too long is
halved. -/
theorem roundAt_bounds (hf : f.IsProper) (hnum : 0 < num) (hden : 0 < den) {e : Int}
    (he : max f.lowest (floorLog2 num den - (f.digits - 1 : Nat)) = e) :
    roundAt num den e ≤ 2 ^ f.digits ∧
      (e = f.lowest ∨ (2 : ℚ) ^ (e + (f.digits - 1 : Nat)) ≤ num / den ∧ 
        2 ^ (f.digits - 1) ≤ roundAt num den e) := by
  have hdigits : (f.digits : Int) = (f.digits - 1 : Nat) + 1 := by
    have := hf.digits_pos
    omega
  obtain ⟨hlow, hhigh⟩ := floorLog2_spec hnum hden
  constructor
  · refine roundAt_le hden (hhigh.le.trans ?_)
    rw [Nat.cast_pow, Nat.cast_ofNat, ← zpow_natCast, ← zpow_add₀ two_ne_zero]
    exact zpow_le_zpow_right₀ one_le_two (by omega)
  · rcases max_choice f.lowest (floorLog2 num den - (f.digits - 1 : Nat)) with hmax | hmax
    · exact .inl (he.symm.trans hmax)
    · have hle : (2 : ℚ) ^ (e + (f.digits - 1 : Nat)) ≤ num / den := by
        rwa [show e + (f.digits - 1 : Nat) = floorLog2 num den by omega]
      refine .inr ⟨hle, le_roundAt hden (le_trans (le_of_eq ?_) hle)⟩
      rw [Nat.cast_pow, Nat.cast_ofNat, ← zpow_natCast, ← zpow_add₀ two_ne_zero, add_comm]

/-- The limit is far beyond the power of two whose mantissa is not full at the coarsest unit. -/
theorem zpow_le_limit (hf : f.IsProper) :
    (2 : ℚ) ^ (f.highest + (f.digits - 1 : Nat)) ≤ f.limit := by
  have hpow : (1 : ℚ) ≤ 2 ^ (f.digits - 1) := one_le_pow₀ one_le_two
  have hdouble : (2 : ℚ) ^ f.digits = 2 * 2 ^ (f.digits - 1) := by
    rw [← pow_succ', Nat.sub_add_cancel hf.digits_pos]
  rw [Format.limit, add_comm, zpow_add₀ two_ne_zero, zpow_natCast]
  exact mul_le_mul_of_nonneg_right (by linarith) (by positivity)

theorem limit_pos (hf : f.IsProper) : 0 < f.limit :=
  lt_of_lt_of_le (by positivity) (zpow_le_limit hf)

theorem exists_ofParts?_iff {mantissa : Nat} {exponent : Int} {negative : Bool} :
    (∃ x, ofParts? f negative mantissa exponent = some x) ↔ f.Canonical mantissa exponent := by
  rw [ofParts?]
  split
  · rename_i h
    exact ⟨fun _ => h, fun _ => ⟨_, rfl⟩⟩
  · rename_i h
    exact iff_of_false (by simp) h

theorem exists_zero? (hunits : f.lowest ≤ f.highest) (negative : Bool) :
    ∃ x, zero? f negative = some x :=
  exists_ofParts?_iff.mpr ⟨Nat.pow_pos (by decide), le_rfl, hunits, .inl rfl⟩

/-- A quotient has a nearest value if the exponent that rounding picks is in range, and at the last
one no digit is carried. -/
theorem exists_nearest_iff_exponent (hf : f.IsProper) (hnum : 0 < num) (hden : 0 < den)
    (negative : Bool) {e : Int}
    (he : max f.lowest (floorLog2 num den - (f.digits - 1 : Nat)) = e) :
    (∃ x, nearest f negative num den = some x) ↔
      e < f.highest ∨ e = f.highest ∧ ¬ 2 ^ f.digits ≤ roundAt num den e := by
  obtain ⟨hmost, hfull⟩ := roundAt_bounds hf hnum hden he
  have hlowest : f.lowest ≤ e := he ▸ le_max_left ..
  simp only [nearest, hden.ne', hnum.ne', if_false, he, Nat.pow_eq]
  split
  · rename_i hcarry
    have hshort : 2 ^ (f.digits - 1) < 2 ^ f.digits :=
      Nat.pow_lt_pow_right (by decide) (Nat.sub_lt hf.digits_pos Nat.one_pos)
    rw [exists_ofParts?_iff]
    simp only [Format.Canonical, Nat.pow_eq, hshort, le_refl, or_true, and_true, true_and]
    omega
  · rename_i hne
    rw [exists_ofParts?_iff]
    have hlt : roundAt num den e < 2 ^ f.digits := lt_of_le_of_ne hmost hne
    have hcanonical : e = f.lowest ∨ 2 ^ (f.digits - 1) ≤ roundAt num den e :=
      hfull.imp_right And.right
    simp only [Format.Canonical, hcanonical, Nat.pow_eq, and_true, not_le, hlt, true_and]
    omega

/-- **A quotient has a nearest value if and only if it is below the limit.** -/
theorem exists_nearest_iff (hf : f.IsProper) (hunits : f.lowest < f.highest) (hden : 0 < den)
    (negative : Bool) :
    (∃ x, nearest f negative num den = some x) ↔ (num : ℚ) / den < f.limit := by
  have hdigits : (f.digits : Int) = (f.digits - 1 : Nat) + 1 := by
    have := hf.digits_pos
    omega
  rcases Nat.eq_zero_or_pos num with rfl | hnum
  · rw [nearest, if_neg hden.ne', if_pos rfl, Nat.cast_zero, zero_div]
    exact iff_of_true (exists_zero? hunits.le negative) (limit_pos hf)
  obtain ⟨e, he⟩ : ∃ e, max f.lowest (floorLog2 num den - (f.digits - 1 : Nat)) = e := ⟨_, rfl⟩
  rw [exists_nearest_iff_exponent hf hnum hden negative he]
  obtain ⟨hlow, hhigh⟩ := floorLog2_spec hnum hden
  rcases lt_trichotomy e f.highest with hlt | rfl | hgt
  · -- below the last exponent even the power of two above is in range
    refine iff_of_true (.inl hlt) (hhigh.trans_le (le_trans ?_ (zpow_le_limit hf)))
    exact zpow_le_zpow_right₀ one_le_two (by omega)
  · -- at the last exponent the quotient must not be rounded up to the next power of two
    have heven : 2 ^ f.digits % 2 = 0 := by
      rw [← Nat.sub_add_cancel hf.digits_pos, Nat.pow_succ, Nat.mul_mod_left]
    rw [le_roundAt_iff hden, Format.limit]
    simp only [lt_irrefl, false_or, true_and, heven, and_true, Nat.cast_pow, Nat.cast_ofNat]
    rw [← le_iff_lt_or_eq, not_le]
  · -- beyond it the quotient is at least that power of two
    refine iff_of_false (by omega) (not_lt.mpr ?_)
    have hfull := (roundAt_bounds hf hnum hden he).2.resolve_left (by omega)
    calc f.limit ≤ 2 ^ f.digits * 2 ^ f.highest :=
          mul_le_mul_of_nonneg_right (by linarith) (by positivity)
      _ = 2 ^ ((f.digits : Int) + f.highest) := by rw [zpow_add₀ two_ne_zero, zpow_natCast]
      _ ≤ 2 ^ (e + (f.digits - 1 : Nat)) := zpow_le_zpow_right₀ one_le_two (by omega)
      _ ≤ num / den := hfull.1

/-- Whole numbers below the limit have a nearest value. -/
theorem exists_ofInt (hf : f.IsProper) (hunits : f.lowest < f.highest) {i : Int}
    (h : (i.natAbs : ℚ) < f.limit) : ∃ x, ofInt f i = some x := by
  refine (exists_nearest_iff hf hunits Nat.one_pos _).mpr ?_
  rwa [Nat.cast_one, div_one]

end Binary

namespace Json

/-- A whole number has 64 bits, with or without a sign. -/
def Number.IsWord : Number → Prop
  | .whole i => -2 ^ 63 ≤ i ∧ i < 2 ^ 64
  | .real _ => True

/-- A number that is read has 64 bits. -/
theorem Literal.isWord_of_number? {l : Literal} {n : Number} (h : l.number? = some n) :
    n.IsWord := by
  have hreal {d? : Option Double} (h : d?.map Number.real = some n) : n.IsWord := by
    obtain ⟨x, -, rfl⟩ := Option.map_eq_some_iff.mp h
    trivial
  simp only [Literal.number?] at h
  split at h
  · exact hreal h
  split at h
  · split at h
    · exact hreal h
    · rename_i hbound
      rw [not_or, not_lt, Nat.pow_eq] at hbound
      cases h
      exact ⟨by omega, by omega⟩
  · split at h
    · rename_i hbound
      rw [UInt64.size] at hbound
      cases h
      exact ⟨by omega, by omega⟩
    · exact hreal h

/-- **A number of 64 bits can be read as a fraction.** -/
theorem Number.IsWord.exists_toDouble? {n : Number} (h : n.IsWord) :
    ∃ x, n.toDouble? = some x := by
  cases n with
  | real x => exact ⟨x, rfl⟩
  | whole i =>
    obtain ⟨hleast, hmost⟩ := h
    refine Binary.exists_ofInt Binary.Format.isProper_double (by decide) ?_
    have hword : i.natAbs < 2 ^ 65 := by omega
    calc (i.natAbs : ℚ) < 2 ^ 65 := by exact_mod_cast hword
      _ = 2 ^ (65 : Int) := by norm_cast
      _ ≤ 2 ^ (Binary.Format.double.highest + (Binary.Format.double.digits - 1 : Nat)) :=
        zpow_le_zpow_right₀ one_le_two (by decide)
      _ ≤ Binary.Format.double.limit := Binary.zpow_le_limit Binary.Format.isProper_double

end Json

end PortGraph
