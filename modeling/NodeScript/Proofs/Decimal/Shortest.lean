import NodeScript.Proofs.Decimal.Bits
import NodeScript.Proofs.Decimal.Digits
import NodeScript.Proofs.Decimal.Nearest

namespace NodeScript.Decimal

def asFraction (d : Decimal) : Nat × Nat :=
  if 0 ≤ d.exponent then (d.digits * tens d.exponent.toNat, 1) else (d.digits, tens (-d.exponent).toNat)

theorem asFraction_pos (d : Decimal) : 0 < (asFraction d).2 := by
  unfold asFraction tens
  split
  · exact Nat.one_pos
  · exact Nat.pow_pos (by decide)

theorem asFraction_value (d : Decimal) :
    ((asFraction d).1 : ℚ) / (asFraction d).2 = d.digits * 10 ^ d.exponent := by
  unfold asFraction tens
  split
  · rename_i up
    obtain ⟨k, same⟩ := Int.eq_ofNat_of_zero_le up
    simp [same]
  · rename_i down
    obtain ⟨k, same⟩ := Int.eq_ofNat_of_zero_le (show 0 ≤ -d.exponent by omega)
    rw [same, show d.exponent = -(k : Int) by omega]
    simp [div_eq_mul_inv]

def top (d : Decimal) : Int := (digitCount d.digits : Int) + d.exponent

theorem toFloat_eq (d : Decimal) : d.toFloat =
    if d.digits = 0 ∨ top d < -400 then 0
    else if 400 < top d then ofRatio (tens 400) 1 else ofRatio (asFraction d).1 (asFraction d).2 := by
  unfold toFloat top asFraction
  by_cases up : 0 ≤ d.exponent
  · simp only [if_pos up]
  · simp only [if_neg up]

theorem ofRatio_congr {num den num' den' : Nat} (some : 0 < den) (other : 0 < den')
    (same : (num : ℚ) / den = num' / den') : ofRatio num den = ofRatio num' den' := by
  rw [ofRatio, ofRatio, nearestBits_congr some other same]

theorem toFloat_zeros (n k : Nat) (e : Int) : toFloat ⟨n * 10 ^ k, e⟩ = toFloat ⟨n, e + k⟩ := by
  rcases Nat.eq_zero_or_pos n with rfl | positive
  · rw [toFloat_eq, toFloat_eq, if_pos (Or.inl (Nat.zero_mul _)), if_pos (Or.inl rfl)]
  · have more : n * 10 ^ k ≠ 0 := (Nat.mul_pos positive (Nat.pow_pos (by decide))).ne'
    have tops : top ⟨n * 10 ^ k, e⟩ = top ⟨n, e + k⟩ := by
      simp only [top, digitCount_mul positive]
      omega
    have values : ((asFraction ⟨n * 10 ^ k, e⟩).1 : ℚ) / (asFraction ⟨n * 10 ^ k, e⟩).2 =
        (asFraction ⟨n, e + k⟩).1 / (asFraction ⟨n, e + k⟩).2 := by
      rw [asFraction_value, asFraction_value, zpow_add₀ (by norm_num), Nat.cast_mul, Nat.cast_pow,
        zpow_natCast, Nat.cast_ofNat]
      ring
    rw [toFloat_eq, toFloat_eq, tops, ofRatio_congr (asFraction_pos _) (asFraction_pos _) values]
    simp only [more, positive.ne', false_or]

theorem value_bounds (d : Decimal) (positive : 0 < d.digits) :
    (10 : ℚ) ^ (top d - 1) ≤ d.digits * 10 ^ d.exponent ∧ d.digits * 10 ^ d.exponent < (10 : ℚ) ^ top d := by
  obtain ⟨c, count⟩ : ∃ c, digitCount d.digits = c + 1 :=
    Nat.exists_eq_succ_of_ne_zero (Nat.length_toDigits_pos (b := 10)).ne'
  obtain ⟨lower, upper⟩ := (digitCount_eq_iff positive c).mp count
  have lower : (10 : ℚ) ^ (c : ℤ) ≤ d.digits := by exact_mod_cast lower
  have upper : (d.digits : ℚ) < 10 ^ (c + 1 : ℤ) := by exact_mod_cast upper
  have place : top d = (c + 1 : ℤ) + d.exponent := by rw [top, count, Nat.cast_succ]
  rw [place, add_sub_right_comm, add_sub_cancel_right, zpow_add₀ (by norm_num), zpow_add₀ (by norm_num)]
  exact ⟨mul_le_mul_of_nonneg_right lower (by positivity), mul_lt_mul_of_pos_right upper (by positivity)⟩

theorem top_within (d : Decimal) {m : Nat} {q : Int} (positive : 0 < m) (short : m < 2 ^ 53)
    (least : -1074 ≤ q) (most : q ≤ 971) (value : (d.digits : ℚ) * 10 ^ d.exponent = m * 2 ^ q) :
    d.digits ≠ 0 ∧ -400 ≤ top d ∧ top d ≤ 400 := by
  have some : 0 < d.digits := by
    refine Nat.pos_of_ne_zero fun zero => ?_
    have above : (0 : ℚ) < m * 2 ^ q := by positivity
    simp [← value, zero] at above
  obtain ⟨lower, upper⟩ := value_bounds d some
  rw [value] at lower upper
  have small : (10 : ℚ) ^ (-401 : ℤ) ≤ m * 2 ^ q := by
    calc (10 : ℚ) ^ (-401 : ℤ) ≤ 8 ^ (-401 : ℤ) := by
          rw [zpow_neg, zpow_neg]
          exact inv_anti₀ (by positivity) (zpow_le_zpow_left₀ (by norm_num) (by norm_num) (by norm_num))
      _ = 2 ^ (-1203 : ℤ) := by
          rw [show (8 : ℚ) = 2 ^ (3 : ℤ) by norm_num, ← zpow_mul]
          rfl
      _ ≤ 2 ^ q := zpow_le_zpow_right₀ (by norm_num) (by omega)
      _ ≤ m * 2 ^ q := le_mul_of_one_le_left (by positivity) (by exact_mod_cast positive)
  have large : (m : ℚ) * 2 ^ q < 10 ^ (400 : ℤ) := by
    calc (m : ℚ) * 2 ^ q < 2 ^ (53 : ℤ) * 2 ^ q := mul_lt_mul_of_pos_right (by exact_mod_cast short) (by positivity)
      _ ≤ 2 ^ (1200 : ℤ) := by
          rw [← zpow_add₀ (by norm_num)]
          exact zpow_le_zpow_right₀ (by norm_num) (by omega)
      _ = 8 ^ (400 : ℤ) := by
          rw [show (8 : ℚ) = 2 ^ (3 : ℤ) by norm_num, ← zpow_mul]
          rfl
      _ ≤ 10 ^ (400 : ℤ) := zpow_le_zpow_left₀ (by norm_num) (by norm_num) (by norm_num)
  have below : -401 < top d := (zpow_lt_zpow_iff_right₀ (by norm_num)).mp (small.trans_lt upper)
  have above : top d - 1 < 400 := (zpow_lt_zpow_iff_right₀ (by norm_num)).mp (lower.trans_lt large)
  exact ⟨some.ne', by omega, by omega⟩

variable {x : Float}

theorem parts_eq (x : Float) : parts x =
    if Bits.size x / 2 ^ 52 = 0 then (Bits.size x % 2 ^ 52, (-1074 : Int))
    else (Bits.size x % 2 ^ 52 + 2 ^ 52, ((Bits.size x / 2 ^ 52 : Nat) : Int) - 1075) := rfl

theorem parts_spec (finite : x.isFinite = true) :
    (parts x).1 < 2 ^ 53 ∧ -1074 ≤ (parts x).2 ∧ (parts x).2 ≤ 971 ∧
      (2 ^ 52 ≤ (parts x).1 ∨ (parts x).2 = -1074) ∧ bitsOf (parts x).2 (parts x).1 = Bits.size x := by
  have bounded := (Bits.isFinite_iff_size x).mp finite
  have split := Nat.div_add_mod (Bits.size x) (2 ^ 52)
  have low := Nat.mod_lt (Bits.size x) (Nat.two_pow_pos 52)
  have weight : twos 52 = 2 ^ 52 := rfl
  rw [parts_eq, bitsOf, weight]
  generalize Bits.size x = size at bounded split low
  by_cases least : size / 2 ^ 52 = 0
  · rw [if_pos least]
    refine ⟨?_, ?_, ?_, ?_, ?_⟩ <;> dsimp only <;> omega
  · rw [if_neg least]
    refine ⟨?_, ?_, ?_, ?_, ?_⟩ <;> dsimp only <;> omega

theorem exact_value (x : Float) :
    ((exact x).digits : ℚ) * 10 ^ (exact x).exponent = (parts x).1 * 2 ^ (parts x).2 := by
  have whole : exact x = if 0 ≤ (parts x).2 then ⟨(parts x).1 * 2 ^ (parts x).2.toNat, 0⟩
      else ⟨(parts x).1 * 5 ^ (-(parts x).2).toNat, (parts x).2⟩ := rfl
  rw [whole]
  by_cases up : 0 ≤ (parts x).2
  · obtain ⟨k, same⟩ := Int.eq_ofNat_of_zero_le up
    simp [same]
  · obtain ⟨k, same⟩ := Int.eq_ofNat_of_zero_le (show 0 ≤ -(parts x).2 by omega)
    have power : (parts x).2 = -(k : Int) := by omega
    have ten : (10 : ℚ) ^ k = 2 ^ k * 5 ^ k := by
      rw [← mul_pow]
      norm_num
    rw [if_neg up, same, power, zpow_neg, zpow_neg, zpow_natCast, zpow_natCast, ten]
    push_cast
    field_simp
    rw [Int.toNat_natCast]

theorem toFloat_exact (finite : x.isFinite = true) (some : 0 < (parts x).1) :
    (exact x).toFloat = x.abs := by
  obtain ⟨short, least, most, full, bits⟩ := parts_spec finite
  obtain ⟨nonzero, lower, upper⟩ := top_within (exact x) some short least most (exact_value x)
  have nearest : nearestBits (asFraction (exact x)).1 (asFraction (exact x)).2 = Bits.size x := by
    rw [← bits]
    exact nearestBits_exact (asFraction_pos _) some short least full
      (by rw [asFraction_value, exact_value])
  rw [toFloat_eq, if_neg (by omega), if_neg (by omega), ofRatio, nearest,
    Bits.abs_eq_ofBits (Bits.isNaN_of_isFinite finite)]

theorem ratio_zero (x : Float) : (ratio x).1 = 0 ↔ (parts x).1 = 0 := by
  have whole : ratio x = if 0 ≤ (parts x).2 then ((parts x).1 * 2 ^ (parts x).2.toNat, 1)
      else ((parts x).1, 2 ^ (-(parts x).2).toNat) := rfl
  rw [whole]
  split
  · exact ⟨fun zero => (Nat.mul_eq_zero.mp zero).resolve_right (Nat.two_pow_pos _).ne',
      fun zero => by rw [zero, Nat.zero_mul]⟩
  · exact Iff.rfl

/-- The shortest numeral of a number is read as its absolute value. -/
theorem toFloat_shortest (finite : x.isFinite = true) : (shortest x).toFloat = x.abs := by
  have whole : shortest x = if (ratio x).1 = 0 then ⟨0, 0⟩ else
      ((List.range 17).findSome? fun (n : Nat) => (neighbours (ratio x).1 (ratio x).2
        (magnitude (ratio x).1 (ratio x).2 - (n : Int))).find? (reads x.abs)).getD (exact x) := rfl
  rw [whole]
  split
  · rename_i zero
    obtain ⟨-, -, -, full, bits⟩ := parts_spec finite
    have none := (ratio_zero x).mp zero
    have least : (parts x).2 = -1074 := full.resolve_left (by omega)
    rw [none, least] at bits
    rw [Bits.abs_eq_ofBits (Bits.isNaN_of_isFinite finite), ← bits, toFloat_eq, if_pos (Or.inl rfl)]
    decide
  · rename_i some
    cases found : (List.range 17).findSome? fun (n : Nat) => (neighbours (ratio x).1 (ratio x).2
        (magnitude (ratio x).1 (ratio x).2 - (n : Int))).find? (reads x.abs) with
    | none => exact toFloat_exact finite (Nat.pos_of_ne_zero fun zero => some ((ratio_zero x).mpr zero))
    | some d =>
      obtain ⟨n, -, here⟩ := List.exists_of_findSome?_eq_some found
      have read : reads x.abs d = true := List.find?_some here
      exact of_decide_eq_true read

end NodeScript.Decimal
