import LineCalc.Proofs.Decimal.Reading
import LineCalc.Proofs.Double.Rounding

/-!
# Doubles of decimals

The double of a decimal is determined by the exact value of the decimal.  Decimals that are read as
the same double have everything between them read as that double too.
-/

namespace LineCalc

/-- A thousandth part of a power of ten is a power of eight at most. -/
theorem two_zpow_le_ten_zpow {power : Int} (positive : 0 ≤ power) :
    (2 : Rat) ^ (3 * power) ≤ 10 ^ power := by
  obtain ⟨count, rfl⟩ := Int.eq_ofNat_of_zero_le positive
  rw [zpow_mul]
  exact_mod_cast Nat.pow_le_pow_left (by decide : 2 ^ 3 ≤ 10) count

theorem ten_zpow_le_two_zpow {power : Int} (negative : power ≤ 0) :
    (10 : Rat) ^ power ≤ 2 ^ (3 * power) := by
  have inverse := two_zpow_le_ten_zpow (Int.neg_nonneg_of_nonpos negative)
  rw [mul_neg, zpow_neg, zpow_neg] at inverse
  exact (inv_le_inv₀ (by positivity) (by positivity)).mp inverse

namespace Decimal

variable {decimal other : Decimal}

theorem toRat_pos (nonzero : decimal.digits ≠ 0) : 0 < decimal.toRat := by
  have positive : 0 < decimal.digits := Nat.pos_of_ne_zero nonzero
  unfold toRat
  positivity

theorem digits_ne_zero (positive : 0 < decimal.toRat) : decimal.digits ≠ 0 := by
  intro zero
  rw [toRat, zero, Nat.cast_zero, zero_mul] at positive
  exact absurd positive (lt_irrefl 0)

theorem ten_zpow_le_toRat (nonzero : decimal.digits ≠ 0) :
    10 ^ decimal.exponent ≤ decimal.toRat := by
  have whole : (1 : Rat) ≤ decimal.digits := by exact_mod_cast Nat.pos_of_ne_zero nonzero
  exact le_mul_of_one_le_left (by positivity) whole

theorem toRat_spread (decimal : Decimal) : decimal.spread.toRat = decimal.toRat := by
  unfold spread
  split
  · next whole =>
    obtain ⟨count, exponent⟩ := Int.eq_ofNat_of_zero_le whole
    rw [toRat, toRat, exponent, Int.toNat_natCast, zpow_natCast, zpow_zero, mul_one, Nat.pow_eq]
    push_cast
    rfl
  · rfl

/-- The bounds beyond which the power of ten is not computed do not matter. -/
theorem toDouble_eq (negative : Bool) (nonzero : decimal.digits ≠ 0) :
    decimal.toDouble negative = Double.ofMagnitude negative decimal.toRat := by
  rw [toDouble, if_neg nonzero]
  split
  · next huge =>
    refine (Double.ofMagnitude_of_huge negative ?_).symm
    calc (2 : Rat) ^ (1024 : Int) ≤ 2 ^ (3 * decimal.exponent) :=
          zpow_le_zpow_right₀ one_le_two (by omega)
      _ ≤ 10 ^ decimal.exponent := two_zpow_le_ten_zpow (by omega)
      _ ≤ decimal.toRat := ten_zpow_le_toRat nonzero
  · split
    · next tiny =>
      refine (Double.ofMagnitude_of_tiny negative (toRat_pos nonzero) ?_).symm
      have digits : (decimal.digits : Rat) < 2 * 10 ^ (decimal.digits.log2 : Int) := by
        calc (decimal.digits : Rat) < 2 ^ (decimal.digits.log2 + 1) := by
              exact_mod_cast Nat.lt_log2_self
          _ = 2 * 2 ^ decimal.digits.log2 := pow_succ' _ _
          _ ≤ 2 * 10 ^ decimal.digits.log2 := by gcongr; norm_num
          _ = 2 * 10 ^ (decimal.digits.log2 : Int) := by rw [zpow_natCast]
      calc decimal.toRat < 2 * 10 ^ (decimal.digits.log2 : Int) * 10 ^ decimal.exponent := by
            unfold toRat
            gcongr
        _ = 2 * 10 ^ (decimal.exponent + decimal.digits.log2) := by
            rw [mul_assoc, ← zpow_add₀ (by norm_num), add_comm]
        _ ≤ 2 * 2 ^ (3 * (decimal.exponent + decimal.digits.log2)) := by
            gcongr
            exact ten_zpow_le_two_zpow (by omega)
        _ = 2 ^ (3 * (decimal.exponent + decimal.digits.log2) + 1) := by
            rw [zpow_add_one₀ two_ne_zero, mul_comm]
        _ ≤ 2 ^ (-1075 : Int) := zpow_le_zpow_right₀ one_le_two (by omega)
    · rfl

theorem toDouble_congr (negative : Bool) (same : decimal.toRat = other.toRat) :
    decimal.toDouble negative = other.toDouble negative := by
  by_cases zero : decimal.digits = 0
  · have otherZero : other.digits = 0 := by
      by_contra nonzero
      have positive := same ▸ toRat_pos nonzero
      exact digits_ne_zero positive zero
    rw [toDouble, toDouble, if_pos zero, if_pos otherZero]
  · have nonzero : other.digits ≠ 0 := digits_ne_zero (same ▸ toRat_pos zero)
    rw [toDouble_eq negative zero, toDouble_eq negative nonzero, same]

theorem neg_toDouble (decimal : Decimal) (negative : Bool) :
    (decimal.toDouble negative).neg = decimal.toDouble (!negative) := by
  unfold toDouble
  split_ifs
  · rfl
  · rfl
  · rfl
  · exact Double.neg_ofMagnitude negative decimal.toRat

/-! ## What is read as a positive double -/

variable {number : Double}

theorem readsAs_iff (positive : 0 < number.toRat) :
    decimal.ReadsAs number ↔ decimal.digits ≠ 0 ∧ rounded decimal.toRat = number.toRat := by
  by_cases zero : decimal.digits = 0
  · have read : decimal.toDouble false = Double.zero false := if_pos zero
    have other : ¬ decimal.ReadsAs number := by
      intro reads
      rw [ReadsAs, read] at reads
      rw [← reads] at positive
      exact absurd positive (by simp [Double.zero, Double.toRat])
    simp [zero, other]
  · rw [ReadsAs, toDouble_eq false zero,
      Double.ofMagnitude_eq_iff (toRat_pos zero) positive]
    simp [zero]

end Decimal

end LineCalc
