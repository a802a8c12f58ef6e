import Mathlib.Algebra.Order.Field.Power
import Mathlib.Data.Int.Log
import Mathlib.Data.Rat.Floor
import Mathlib.Tactic.FieldSimp
import Mathlib.Tactic.Linarith
import Mathlib.Tactic.Positivity
import Mathlib.Tactic.Ring
import NodeScript.Decimal.Shortest

namespace NodeScript.Decimal

variable {num den : Nat}

theorem scaled_value (num den : Nat) (e : Int) :
    ((scaled num den e).1 : ℚ) / (scaled num den e).2 = (num : ℚ) / den / 2 ^ e := by
  unfold scaled twos
  split
  · rename_i up
    obtain ⟨k, rfl⟩ := Int.eq_ofNat_of_zero_le up
    simp [div_div]
  · rename_i down
    obtain ⟨k, same⟩ := Int.eq_ofNat_of_zero_le (show 0 ≤ -e by omega)
    rw [show e = -(k : Int) by omega]
    simp [mul_div_right_comm]

theorem scaled_pos (some : 0 < den) (e : Int) : 0 < (scaled num den e).2 := by
  unfold scaled twos
  split
  · exact Nat.mul_pos some (Nat.pow_pos Nat.two_pos)
  · exact some

theorem fits_iff (some : 0 < den) (more : 0 < num) (e : Int) :
    fits num den e ↔ Int.log 2 ((num : ℚ) / den) < e + 53 := by
  have positive : (0 : ℚ) < (num : ℚ) / den := by positivity
  have below : (0 : ℚ) < (scaled num den e).2 := by exact_mod_cast scaled_pos some e
  calc fits num den e
      ↔ (scaled num den e).1 < (scaled num den e).2 * twos 53 := decide_eq_true_iff
    _ ↔ ((scaled num den e).1 : ℚ) < (scaled num den e).2 * 2 ^ (53 : ℤ) := by
        unfold twos
        norm_cast
    _ ↔ (num : ℚ) / den < 2 ^ (53 : ℤ) * 2 ^ e := by
        rw [← div_lt_iff₀' below, scaled_value, div_lt_iff₀ (by positivity)]
    _ ↔ Int.log 2 ((num : ℚ) / den) < e + 53 := by
        rw [← zpow_add₀ (by norm_num), add_comm, ← Int.lt_zpow_iff_log_lt Nat.one_lt_two positive,
          Nat.cast_ofNat]

theorem log_ratio (some : 0 < den) (more : 0 < num) :
    (num.log2 : Int) - den.log2 - 1 ≤ Int.log 2 ((num : ℚ) / den) ∧
      Int.log 2 ((num : ℚ) / den) ≤ (num.log2 : Int) - den.log2 := by
  have positive : (0 : ℚ) < (num : ℚ) / den := by positivity
  have top : (2 : ℚ) ^ (num.log2 : ℤ) ≤ num ∧ (num : ℚ) < 2 ^ ((num.log2 : ℤ) + 1) := by
    have := Nat.log2_self_le more.ne'
    have := Nat.lt_log2_self (n := num)
    norm_cast
  have bottom : (2 : ℚ) ^ (den.log2 : ℤ) ≤ den ∧ (den : ℚ) < 2 ^ ((den.log2 : ℤ) + 1) := by
    have := Nat.log2_self_le some.ne'
    have := Nat.lt_log2_self (n := den)
    norm_cast
  constructor
  · rw [← Int.zpow_le_iff_le_log Nat.one_lt_two positive, Nat.cast_ofNat, sub_sub,
      zpow_sub₀ (by norm_num)]
    exact div_le_div₀ (by positivity) top.1 (by positivity) bottom.2.le
  · rw [← Int.lt_add_one_iff, ← Int.lt_zpow_iff_log_lt Nat.one_lt_two positive, Nat.cast_ofNat,
      sub_add_eq_add_sub, zpow_sub₀ (by norm_num)]
    exact div_lt_div₀ top.2 bottom.1 (by positivity) (by positivity)

theorem grain_eq (some : 0 < den) (more : 0 < num) :
    grain num den = max (Int.log 2 ((num : ℚ) / den) - 52) (-1074) := by
  obtain ⟨least, most⟩ := log_ratio some more
  unfold grain
  simp only [fits_iff some more]
  split_ifs <;> omega

theorem rounded_mul (n d : Nat) {k : Nat} (positive : 0 < k) : rounded (n * k) (d * k) = rounded n d := by
  have less (a b : Nat) : a * k < b * k ↔ a < b := Nat.mul_lt_mul_right positive
  simp only [rounded, Nat.mul_div_mul_right n d positive, Nat.mul_mod_mul_right, ← Nat.mul_assoc, less]

theorem rounded_congr {n d m e : Nat} (some : 0 < d) (other : 0 < e) (same : (n : ℚ) / d = m / e) :
    rounded n d = rounded m e := by
  have across : n * e = m * d := by
    rw [div_eq_div_iff (by positivity) (by positivity)] at same
    exact_mod_cast same
  rw [← rounded_mul n d other, ← rounded_mul m e some, across, Nat.mul_comm d e]

theorem rounded_whole (m : Nat) {d : Nat} (some : 0 < d) : rounded (m * d) d = m := by
  rw [rounded, Nat.mul_div_cancel m some, Nat.mul_mod_left, if_pos (by omega)]

theorem nearestBits_pos (more : 0 < num) : nearestBits num den =
    bitsOf (grain num den) (rounded (scaled num den (grain num den)).1 (scaled num den (grain num den)).2) :=
  if_neg more.ne'

theorem nearestBits_congr {num' den' : Nat} (some : 0 < den) (other : 0 < den')
    (same : (num : ℚ) / den = num' / den') : nearestBits num den = nearestBits num' den' := by
  rcases Nat.eq_zero_or_pos num with rfl | more
  · have none : num' = 0 := by
      rw [Nat.cast_zero, zero_div, eq_comm, div_eq_zero_iff] at same
      exact_mod_cast same.resolve_right (by positivity)
    rw [none, nearestBits, nearestBits, if_pos rfl, if_pos rfl]
  · have more' : 0 < num' := by
      have above : (0 : ℚ) < num' / den' := by
        rw [← same]
        positivity
      exact Nat.pos_of_ne_zero fun zero => by simp [zero] at above
    have grains : grain num den = grain num' den' := by
      rw [grain_eq some more, grain_eq other more', same]
    have nearest (e : Int) : rounded (scaled num den e).1 (scaled num den e).2 =
        rounded (scaled num' den' e).1 (scaled num' den' e).2 :=
      rounded_congr (scaled_pos some e) (scaled_pos other e) (by rw [scaled_value, scaled_value, same])
    rw [nearestBits_pos more, nearestBits_pos more', nearest, grains]

/-- A fraction of so few bits, counted in its grain, is its own nearest number. -/
theorem nearestBits_exact {m : Nat} {q : Int} (some : 0 < den) (positive : 0 < m) (short : m < 2 ^ 53)
    (own : -1074 ≤ q) (full : 2 ^ 52 ≤ m ∨ q = -1074) (value : (num : ℚ) / den = m * 2 ^ q) :
    nearestBits num den = bitsOf q m := by
  have above : (0 : ℚ) < (num : ℚ) / den := by
    rw [value]
    positivity
  have more : 0 < num := Nat.pos_of_ne_zero fun zero => by simp [zero] at above
  have most : Int.log 2 ((num : ℚ) / den) < 53 + q := by
    have short : (m : ℚ) < 2 ^ (53 : ℤ) := by exact_mod_cast short
    rw [← Int.lt_zpow_iff_log_lt Nat.one_lt_two above, value, Nat.cast_ofNat, zpow_add₀ (by norm_num)]
    exact mul_lt_mul_of_pos_right short (by positivity)
  have grains : grain num den = q := by
    rw [grain_eq some more]
    rcases full with full | rfl
    · have full : (2 : ℚ) ^ (52 : ℤ) ≤ m := by exact_mod_cast full
      have least : 52 + q ≤ Int.log 2 ((num : ℚ) / den) := by
        rw [← Int.zpow_le_iff_le_log Nat.one_lt_two above, value, Nat.cast_ofNat, zpow_add₀ (by norm_num)]
        exact mul_le_mul_of_nonneg_right full (by positivity)
      omega
    · omega
  have below : 0 < (scaled num den q).2 := scaled_pos some q
  have whole : (scaled num den q).1 = m * (scaled num den q).2 := by
    have quotient := scaled_value num den q
    rw [value, mul_div_assoc, div_self (by positivity), mul_one,
      div_eq_iff (by exact_mod_cast below.ne')] at quotient
    exact_mod_cast quotient
  rw [nearestBits_pos more, grains, whole, rounded_whole m below]

end NodeScript.Decimal
