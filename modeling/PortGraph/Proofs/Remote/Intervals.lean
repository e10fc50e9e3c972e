import PortGraph.Proofs.Number.Rounding
import PortGraph.Remote.Polling
import Mathlib.Logic.Function.Iterate
import Mathlib.Tactic.NormNum

/-!
# Growing intervals

An interval between two polls is turned into seconds, multiplied, and turned back into nanoseconds,
with a rounding at every step. Each takes away a tiny share of it at most. For an interval of up to a
day all of them together take away less than half a nanosecond, so that the last rounding makes up
for it: such an interval does not shrink, whatever the factor, and it grows up to its limit at most.

## Main definitions

* `Polling.remainder`: what is left of a number after a rounding
* `RemoteConfig.waitAt`: the interval of the wait after so many polls

## Main results

* `Polling.le_abs_seconds`, `Polling.le_abs_product`: what is left of an interval in seconds, and of
  its multiple
* `Polling.le_grow`, `Polling.grow_le`: an interval does not shrink, and has a limit
* `RemoteConfig.waitAt_le_succ`, `RemoteConfig.waitAt_le`: the intervals that a configuration leads to
-/

namespace PortGraph

/-! ### Seconds -/

namespace Polling

open Binary

/-- What is left of a number after one operation. -/
def remainder : ℚ := 1 - Format.double.share

theorem remainder_bounds : 1 - 1 / 2 ^ 53 ≤ remainder ∧ remainder ≤ 1 := by
  rw [remainder, Format.share, show ((-Format.double.digits : Int)) = -(53 : Nat) from rfl, zpow_neg,
    zpow_natCast]
  norm_num

theorem least_le : Format.double.least ≤ 1 / 2 ^ 40 := by
  rw [Format.least, show (1 : ℚ) / 2 ^ 40 = 2 ^ (-40 : Int) by norm_num]
  exact zpow_le_zpow_right₀ one_le_two (by decide)

/-- A second as a number of nanoseconds is exact. -/
theorem abs_perSecond {x : Double} (h : Binary.ofNat .double perSecond = some x) :
    x.abs = perSecond := by
  have hexact : Binary.ofNat .double perSecond =
      some ⟨false, 1000000000 * Nat.pow 2 23, -23, by decide⟩ := by decide +kernel
  cases hexact.symm.trans h
  rw [Binary.abs, magnitude_div_unitsPerOne Format.isProper_double]
  norm_num [perSecond]

theorem half_le_remainder : 1 / 2 ≤ remainder := le_trans (by norm_num) remainder_bounds.1

/-- What is left of a number of nanoseconds fills a mantissa. -/
theorem least_le_nanoseconds {ns : Nat} (hns : 0 < ns) :
    Format.double.least ≤ (ns : ℚ) / perSecond * remainder ^ 3 := by
  have hhalf := half_le_remainder
  have hone : (1 : ℚ) ≤ ns := Nat.one_le_cast.mpr hns
  calc Format.double.least ≤ 1 / 2 ^ 40 := least_le
    _ ≤ 1 / perSecond * (1 / 2) ^ 3 := by norm_num [perSecond]
    _ ≤ ns / perSecond * remainder ^ 3 := by gcongr

/-- Of less that is taken away more is left. -/
theorem mul_remainder_pow_le {q : ℚ} (hq : 0 ≤ q) {j k : Nat} (hjk : j ≤ k) :
    q * remainder ^ k ≤ q * remainder ^ j := by
  refine mul_le_mul_of_nonneg_left ?_ hq
  exact pow_le_pow_of_le_one (le_trans (by norm_num) half_le_remainder) remainder_bounds.2 hjk

/-- What is left of the rest of a second. -/
theorem le_abs_rest {n : Nat} {part second rest : Double} (hpart : n * remainder ≤ part.abs)
    (hsecond : second.abs = perSecond) (hrest : part.div second = some rest) :
    (n : ℚ) / perSecond * remainder ^ 2 ≤ rest.abs := by
  have hpos : (0 : ℚ) < perSecond := by norm_num [perSecond]
  have hremainder : (0 : ℚ) ≤ remainder := le_trans (by norm_num) half_le_remainder
  obtain rfl | hn := Nat.eq_zero_or_pos n
  · rw [Nat.cast_zero, zero_div, zero_mul]
    exact rest.abs_nonneg
  have hle : (n : ℚ) / perSecond * remainder ≤ part.abs / second.abs := by
    rw [hsecond, div_mul_eq_mul_div]
    gcongr
  have hleast : Format.double.least ≤ part.abs / second.abs :=
    calc Format.double.least ≤ (n : ℚ) / perSecond * remainder ^ 3 := least_le_nanoseconds hn
      _ ≤ n / perSecond * remainder ^ 1 := mul_remainder_pow_le (by positivity) (by decide)
      _ = n / perSecond * remainder := by rw [pow_one]
      _ ≤ part.abs / second.abs := hle
  calc (n : ℚ) / perSecond * remainder ^ 2 = n / perSecond * remainder * remainder := by ring
    _ ≤ part.abs / second.abs * remainder := by gcongr
    _ ≤ rest.abs := le_abs_of_div Format.isProper_double (hsecond ▸ hpos) (.inr hleast) hrest

/-- **What is left of an interval in seconds**, after the rounding of its parts, of their quotient
and of their sum. -/
theorem le_abs_seconds {ns : Nat} (hns : 0 < ns) {x : Double} (h : seconds ns = some x) :
    (ns : ℚ) / perSecond * remainder ^ 3 ≤ x.abs := by
  have hf := Format.isProper_double
  have hone : Format.double.least ≤ 1 := least_le.trans (by norm_num)
  have hremainder : (0 : ℚ) ≤ remainder := le_trans (by norm_num) half_le_remainder
  simp only [seconds, Option.bind_eq_bind, Option.bind_eq_some_iff] at h
  obtain ⟨whole, hwhole, part, hpart, second, hsecond, rest, hrest, hsum⟩ := h
  have hle : (ns : ℚ) / perSecond * remainder ^ 2 ≤ whole.abs + rest.abs := by
    have hsplit : (ns : ℚ) / perSecond =
        (ns / perSecond : Nat) + (ns % perSecond : Nat) / perSecond := by
      rw [eq_comm, add_div' _ _ _ (by norm_num [perSecond])]
      congr 1
      exact_mod_cast Nat.div_add_mod' ns perSecond
    calc (ns : ℚ) / perSecond * remainder ^ 2
        = (ns / perSecond : Nat) * remainder ^ 2 +
            (ns % perSecond : Nat) / perSecond * remainder ^ 2 := by rw [hsplit, add_mul]
      _ ≤ (ns / perSecond : Nat) * remainder ^ 1 +
            (ns % perSecond : Nat) / perSecond * remainder ^ 2 :=
        add_le_add_left (mul_remainder_pow_le (Nat.cast_nonneg _) (by decide)) _
      _ ≤ whole.abs + rest.abs := by
        rw [pow_one]
        exact add_le_add (le_abs_of_ofNat hf hone hwhole)
          (le_abs_rest (le_abs_of_ofNat hf hone hpart) (abs_perSecond hsecond) hrest)
  have hleast : Format.double.least ≤ whole.abs + rest.abs :=
    ((least_le_nanoseconds hns).trans (mul_remainder_pow_le (by positivity) (by decide))).trans hle
  have hnegative : rest.negative = false := by
    rw [negative_of_nearest hrest, negative_of_nearest hpart, negative_of_nearest hsecond]
    rfl
  calc (ns : ℚ) / perSecond * remainder ^ 3
      = ns / perSecond * remainder ^ 2 * remainder := by ring
    _ ≤ (whole.abs + rest.abs) * remainder := by gcongr
    _ ≤ x.abs := le_abs_of_add hf (negative_of_nearest hwhole) hnegative hleast hsum

/-- **What is left of an interval** that is multiplied by one at least. -/
theorem le_abs_product {ns : Nat} (hns : 0 < ns) {factor z : Double} (hfactor : 1 ≤ factor.abs)
    (h : (seconds ns).bind (·.mul factor) = some z) :
    (ns : ℚ) * remainder ^ 4 ≤ z.abs * perSecond := by
  obtain ⟨x, hx, hz⟩ := Option.bind_eq_some_iff.mp h
  have hremainder : (0 : ℚ) ≤ remainder := le_trans (by norm_num) half_le_remainder
  have hproduct : (ns : ℚ) / perSecond * remainder ^ 3 ≤ x.abs * factor.abs :=
    (le_abs_seconds hns hx).trans (le_mul_of_one_le_right x.abs_nonneg hfactor)
  rw [← div_le_iff₀ (by norm_num [perSecond])]
  calc (ns : ℚ) * remainder ^ 4 / perSecond
      = ns / perSecond * remainder ^ 3 * remainder := by ring
    _ ≤ x.abs * factor.abs * remainder := by gcongr
    _ ≤ z.abs := le_abs_of_mul Format.isProper_double ((least_le_nanoseconds hns).trans hproduct) hz

/-- A day has less than `2 ^ 53 / 8` nanoseconds, so less than half of one is lost. -/
theorem lt_of_mul_remainder_le {ns : Nat} (hday : ns ≤ RemoteConfig.longestMs * perMs) {q : ℚ}
    (h : (ns : ℚ) * remainder ^ 4 ≤ q) : 2 * (ns : ℚ) < 2 * q + 1 := by
  have hpow : 1 - 4 / 2 ^ 53 ≤ remainder ^ 4 :=
    calc (1 : ℚ) - 4 / 2 ^ 53 ≤ (1 - 1 / 2 ^ 53) ^ 4 := by norm_num
      _ ≤ remainder ^ 4 := pow_le_pow_left₀ (by norm_num) remainder_bounds.1 4
  have hday' : (ns : ℚ) ≤ 86400000000000 := by exact_mod_cast hday
  have hkept : (ns : ℚ) * (1 - 4 / 2 ^ 53) ≤ ns * remainder ^ 4 :=
    mul_le_mul_of_nonneg_left hpow (Nat.cast_nonneg ns)
  linarith

/-- Seconds that are less than half a nanosecond short are not rounded to less. -/
theorem le_nanoseconds {ns : Nat} {z : Double} (h : 2 * (ns : ℚ) < 2 * (z.abs * perSecond) + 1) :
    ns ≤ nanoseconds z := by
  refine le_roundDiv_of_lt unitsPerOne_pos ?_
  have hunits : (0 : ℚ) < Format.double.unitsPerOne := Nat.cast_pos.mpr unitsPerOne_pos
  have habs : z.abs * Format.double.unitsPerOne = z.magnitude := by
    rw [Binary.abs, div_mul_cancel₀ _ hunits.ne']
  have hscaled := mul_lt_mul_of_pos_left h hunits
  have hcast : (Format.double.unitsPerOne : ℚ) * (2 * ns) <
      2 * (z.magnitude * perSecond) + Format.double.unitsPerOne := by
    rw [← habs]
    linarith
  exact_mod_cast hcast

/-! ### Intervals -/

/-- An interval has a limit. -/
theorem grow_le (p : Polling) (ns : Nat) : p.grow ns ≤ p.greatest := by
  rw [grow]
  split
  · exact Nat.min_le_right _ _
  · exact Nat.le_refl _

/-- **An interval of up to a day does not shrink**, whatever the factor, if it is within its
limit. -/
theorem le_grow (p : Polling) (hbackoff : 1 ≤ p.backoff.abs) {ns : Nat}
    (hday : ns ≤ RemoteConfig.longestMs * perMs) (hgreatest : ns ≤ p.greatest) :
    ns ≤ p.grow ns := by
  obtain rfl | hns := Nat.eq_zero_or_pos ns
  · exact Nat.zero_le _
  rw [grow]
  split
  · rename_i z hz
    have hleft := le_abs_product hns hbackoff hz
    exact Nat.le_min.mpr ⟨le_nanoseconds (lt_of_mul_remainder_le hday hleft), hgreatest⟩
  · exact hgreatest

end Polling

/-! ### Configurations -/

namespace RemoteConfig

open Polling Binary

/-- The interval of the wait after so many polls and waits, in nanoseconds. -/
def waitAt (c : RemoteConfig) (k : Nat) : Nat := (ofConfig c).grow^[k] (ofConfig c).interval

theorem abs_one : Double.one.abs = 1 := by
  rw [Binary.abs, magnitude_div_unitsPerOne Format.isProper_double]
  norm_num [Double.one]

/-- The factor that is used is at least one, whatever the factor that was asked for. -/
theorem one_le_backoff (c : RemoteConfig) : 1 ≤ c.backoff.abs := by
  rw [backoff]
  split
  · rename_i x _
    split
    · exact abs_one.ge
    · rename_i hlt
      have hunits : (Format.double.unitsPerOne : Int) ≤ x.units := by
        have hone : Double.one.units = Format.double.unitsPerOne := by decide +kernel
        rw [← hone]
        simpa [Binary.lt] using hlt
      have hmagnitude : Format.double.unitsPerOne ≤ x.magnitude := by
        have hpos : (0 : Int) < Format.double.unitsPerOne := Int.natCast_pos.mpr unitsPerOne_pos
        rw [units] at hunits
        split at hunits
        · omega
        · exact_mod_cast hunits
      rw [Binary.abs, one_le_div (Nat.cast_pos.mpr unitsPerOne_pos)]
      exact_mod_cast hmagnitude
  · exact abs_one.ge

variable (c : RemoteConfig)

theorem waitAt_zero : c.waitAt 0 = max c.pollIntervalMs.toNat 1 * perMs := rfl

theorem waitAt_succ (k : Nat) : c.waitAt (k + 1) = (ofConfig c).grow (c.waitAt k) :=
  Function.iterate_succ_apply' _ _ _

/-- No interval is greater than the limit. -/
theorem waitAt_le (k : Nat) :
    c.waitAt k ≤ max c.maxPollIntervalMs.toNat (max c.pollIntervalMs.toNat 1) * perMs := by
  cases k with
  | zero => exact Nat.mul_le_mul_right _ (Nat.le_max_right _ _)
  | succ k =>
    rw [waitAt_succ]
    exact grow_le _ _

/-- **The interval after one of up to a day is no shorter.** -/
theorem waitAt_le_succ {k : Nat} (hday : c.waitAt k ≤ longestMs * perMs) :
    c.waitAt k ≤ c.waitAt (k + 1) := by
  rw [waitAt_succ]
  exact le_grow (ofConfig c) c.one_le_backoff hday (c.waitAt_le k)

end RemoteConfig

end PortGraph
