import LineCalc.Builtin.Call
import LineCalc.Proofs.Double.HalfUp
import LineCalc.Proofs.Double.Power

/-!
# Rounding to decimal places

A number is scaled by a power of ten, rounded, and divided by the same power.  Where the power is an
infinity or a zero, nothing is left of the number.  Otherwise the product and the quotient can
overflow, and do not if neither the number nor its product is near the largest double: rounding at
most doubles a magnitude, both to a double and to a whole number.
-/

namespace LineCalc

theorem rounded_le_two_mul {magnitude : Rat} (least : 2 ^ (-1074 : Int) ≤ magnitude) :
    rounded magnitude ≤ 2 * magnitude := by
  have positive : 0 < magnitude := lt_of_lt_of_le (by positivity) least
  have place : -1074 ≤ Int.log 2 magnitude :=
    (Int.zpow_le_iff_le_log (by decide) positive).mp (by exact_mod_cast least)
  calc rounded magnitude ≤ 2 ^ (Int.log 2 magnitude + 1) :=
        rounded_le (by omega) positive (lt_two_zpow_log magnitude).le
    _ = 2 * 2 ^ Int.log 2 magnitude := by rw [zpow_add_one₀ two_ne_zero, mul_comm]
    _ ≤ 2 * magnitude := by gcongr; exact two_zpow_log_le positive

theorem floor_add_half_of_small {exact : Rat} (small : |exact| < 1 / 2) :
    ⌊exact + 1 / 2⌋ = 0 := by
  obtain ⟨low, high⟩ := abs_lt.mp small
  rw [Int.floor_eq_zero_iff]
  constructor <;> linarith

theorem abs_floor_add_half_le (exact : Rat) : |(⌊exact + 1 / 2⌋ : Rat)| ≤ 2 * |exact| := by
  rcases lt_or_ge |exact| (1 / 2) with small | large
  · rw [floor_add_half_of_small small, Int.cast_zero, abs_zero]
    positivity
  · have below := Int.floor_le (exact + 1 / 2)
    have above := Int.lt_floor_add_one (exact + 1 / 2)
    have low := neg_abs_le exact
    have high := le_abs_self exact
    rw [abs_le]
    constructor <;> linarith

namespace Double

variable {number scale places : Double} {negative : Bool} {exact : Rat} {power : Int}

/-! ## Scales out of range -/

theorem isFinite_mul_infinite (number : Double) (negative : Bool) :
    (number.mul (infinite negative)).isFinite = false := by
  match number with
  | nan | infinite _ => rfl
  | finite other significand exponent canonical =>
      by_cases none : significand = 0 <;> simp [mul, none, isFinite]

theorem div_infinite_of_not_finite (unbounded : number.isFinite = false) :
    number.div (infinite negative) = nan := by
  match number with
  | nan | infinite _ => rfl
  | finite .. => exact absurd unbounded nofun

theorem unscaled_infinite (number : Double) :
    (number.mul (infinite false)).roundHalfUp.div (infinite false) = nan := by
  have unbounded := isFinite_mul_infinite number false
  rw [roundHalfUp_of_not_finite unbounded, div_infinite_of_not_finite unbounded]

theorem unscaled_zero (bounded : number.isFinite = true) :
    (number.mul (zero false)).roundHalfUp.div (zero false) = nan := by
  have none (negative : Bool) : (zero negative).toRat = (0 : Int) := by
    rw [toRat_zero, Int.cast_zero]
  rw [mul_of_finite bounded rfl, toRat_zero, mul_zero, ofRat_zero,
    roundHalfUp_of_whole rfl (none _)]
  rfl

/-! ## Magnitudes -/

theorem abs_toRat_ofRat_le (bounded : (ofRat negative exact).isFinite = true) :
    |(ofRat negative exact).toRat| ≤ max (2 * |exact|) (2 ^ (-1074 : Int)) := by
  by_cases none : exact = 0
  · rw [none, ofRat_zero, toRat_zero, abs_zero]
    positivity
  · rw [abs_toRat_ofRat bounded none]
    rcases lt_or_ge |exact| (2 ^ (-1074 : Int)) with tiny | least
    · exact (rounded_le le_rfl (abs_pos.mpr none) tiny.le).trans (le_max_right _ _)
    · exact (rounded_le_two_mul least).trans (le_max_left _ _)

theorem abs_floor_ofRat_add_half_le (bounded : (ofRat negative exact).isFinite = true) :
    |(⌊(ofRat negative exact).toRat + 1 / 2⌋ : Rat)| ≤ 4 * |exact| := by
  have size := abs_toRat_ofRat_le bounded
  rcases le_total (2 * |exact|) (2 ^ (-1074 : Int)) with tiny | least
  · rw [max_eq_right tiny] at size
    have small : |(ofRat negative exact).toRat| < 1 / 2 := by
      calc |(ofRat negative exact).toRat| ≤ 2 ^ (-1074 : Int) := size
        _ < 2 ^ (-1 : Int) := zpow_lt_zpow_right₀ one_lt_two (by decide)
        _ = 1 / 2 := by norm_num
    rw [floor_add_half_of_small small, Int.cast_zero, abs_zero]
    positivity
  · rw [max_eq_left least] at size
    calc |(⌊(ofRat negative exact).toRat + 1 / 2⌋ : Rat)| ≤ 2 * |(ofRat negative exact).toRat| :=
          abs_floor_add_half_le _
      _ ≤ 4 * |exact| := by linarith

/-! ## Scales in range -/

theorem infinite_div (positive : 0 < scale.toRat) :
    (infinite negative).div scale = infinite negative := by
  obtain ⟨_, _, _, _, rfl⟩ := exists_of_toRat_pos positive
  cases negative <;> rfl

theorem eq_infinite_of_not_finite (unbounded : ¬ (ofRat negative exact).isFinite = true) :
    ofRat negative exact = infinite (decide (exact < 0)) :=
  ofRat_of_huge negative (not_lt.mp (mt isFinite_ofRat_iff.mpr unbounded))

section Scale

variable (bounded : number.isFinite = true) (scaleBounded : scale.isFinite = true)
  (positive : 0 < scale.toRat)

include bounded scaleBounded

theorem isFinite_mul_iff :
    (number.mul scale).isFinite = true ↔ |number.toRat * scale.toRat| < overflow := by
  rw [mul_of_finite bounded scaleBounded, isFinite_ofRat_iff]

include positive

theorem isFinite_div_iff :
    (number.div scale).isFinite = true ↔ |number.toRat / scale.toRat| < overflow := by
  rw [div_of_finite bounded scaleBounded positive.ne', isFinite_ofRat_iff]

theorem mul_eq_infinite (unbounded : ¬ (number.mul scale).isFinite = true) :
    number.mul scale = infinite (decide (number.toRat < 0)) := by
  rw [mul_of_finite bounded scaleBounded] at unbounded ⊢
  rw [eq_infinite_of_not_finite unbounded]
  refine congrArg infinite (decide_eq_decide.mpr ?_)
  rw [← lt_div_iff₀ positive, zero_div]

theorem div_eq_infinite (unbounded : ¬ (number.div scale).isFinite = true) :
    number.div scale = infinite (decide (number.toRat < 0)) := by
  rw [div_of_finite bounded scaleBounded positive.ne'] at unbounded ⊢
  rw [eq_infinite_of_not_finite unbounded]
  refine congrArg infinite (decide_eq_decide.mpr ?_)
  rw [div_lt_iff₀ positive, zero_mul]

/-- The sign is kept, unless nothing is left of the number. -/
theorem roundHalfUp_mul_neg_iff (product : (number.mul scale).isFinite = true)
    (some : (number.mul scale).roundHalfUp.toRat ≠ 0) :
    (number.mul scale).roundHalfUp.toRat < 0 ↔ number.toRat < 0 := by
  obtain ⟨_, value⟩ := toRat_roundHalfUp product
  rw [mul_of_finite bounded scaleBounded] at product some value ⊢
  rw [value] at some ⊢
  rcases lt_or_ge number.toRat 0 with below | nonneg
  · have nonpos := toRat_ofRat_nonpos product (mul_nonpos_of_nonpos_of_nonneg below.le positive.le)
    refine iff_of_true (lt_of_le_of_ne ?_ some) below
    exact Int.cast_nonpos.mpr (Int.lt_add_one_iff.mp (Int.floor_lt.mpr (by push_cast; linarith)))
  · have above := toRat_ofRat_nonneg product (mul_nonneg nonneg positive.le)
    refine iff_of_false (not_lt.mpr ?_) nonneg.not_gt
    exact Int.cast_nonneg_iff.mpr (Int.floor_nonneg.mpr (by linarith))

theorem isFinite_unscaled_iff :
    ((number.mul scale).roundHalfUp.div scale).isFinite = true ↔
      |number.toRat * scale.toRat| < overflow ∧
        |⌊(number.mul scale).toRat + 1 / 2⌋ / scale.toRat| < overflow := by
  rw [← isFinite_mul_iff bounded scaleBounded]
  by_cases product : (number.mul scale).isFinite = true
  · obtain ⟨rounded, value⟩ := toRat_roundHalfUp product
    rw [isFinite_div_iff rounded scaleBounded positive, value, and_iff_right product]
  · refine iff_of_false ?_ fun both => product both.left
    rw [mul_eq_infinite bounded scaleBounded positive product, roundHalfUp_of_not_finite rfl,
      infinite_div positive]
    exact Bool.false_ne_true

theorem unscaled_eq_infinite
    (unbounded : ¬ ((number.mul scale).roundHalfUp.div scale).isFinite = true) :
    (number.mul scale).roundHalfUp.div scale = infinite (decide (number.toRat < 0)) := by
  by_cases product : (number.mul scale).isFinite = true
  · obtain ⟨rounded, value⟩ := toRat_roundHalfUp product
    have some : (number.mul scale).roundHalfUp.toRat ≠ 0 := by
      intro none
      rw [isFinite_div_iff rounded scaleBounded positive, none, zero_div, abs_zero] at unbounded
      exact unbounded overflow_pos
    rw [div_eq_infinite rounded scaleBounded positive unbounded]
    exact congrArg infinite
      (decide_eq_decide.mpr (roundHalfUp_mul_neg_iff bounded scaleBounded positive product some))
  · rw [mul_eq_infinite bounded scaleBounded positive product, roundHalfUp_of_not_finite rfl,
      infinite_div positive]

theorem isFinite_unscaled_of_small (small : |number.toRat| ≤ 2 ^ (1021 : Int))
    (scaled : |number.toRat| * scale.toRat ≤ 2 ^ (1023 : Int)) :
    ((number.mul scale).roundHalfUp.div scale).isFinite = true := by
  have size : |number.toRat * scale.toRat| = |number.toRat| * scale.toRat := by
    rw [abs_mul, abs_of_nonneg positive.le]
  have product : |number.toRat * scale.toRat| < overflow :=
    (size.trans_le scaled).trans_lt (two_zpow_lt_overflow (by decide))
  rw [isFinite_unscaled_iff bounded scaleBounded positive]
  refine ⟨product, ?_⟩
  rw [← isFinite_mul_iff bounded scaleBounded, mul_of_finite bounded scaleBounded] at product
  rw [mul_of_finite bounded scaleBounded, abs_div, abs_of_nonneg positive.le]
  have rounding := abs_floor_ofRat_add_half_le product
  rw [size, ← mul_assoc, ← div_le_iff₀ positive] at rounding
  calc _ ≤ 4 * |number.toRat| := rounding
    _ ≤ 2 ^ (2 : Int) * 2 ^ (1021 : Int) := by gcongr; norm_num
    _ = 2 ^ (1023 : Int) := (zpow_add₀ two_ne_zero _ _).symm
    _ < overflow := two_zpow_lt_overflow le_rfl

end Scale

theorem unscaled_ne_nan (bounded : number.isFinite = true) (scaleBounded : scale.isFinite = true)
    (positive : 0 < scale.toRat) : (number.mul scale).roundHalfUp.div scale ≠ nan := by
  by_cases result : ((number.mul scale).roundHalfUp.div scale).isFinite = true
  · exact ne_nan_of_finite result
  · rw [unscaled_eq_infinite bounded scaleBounded positive result]
    exact nofun

/-! ## Powers of ten as scales -/

theorem toRat_tenTo_le (least : -323 ≤ power) (most : power ≤ 308) :
    (tenTo power).toRat ≤ 2 * 10 ^ power := by
  rw [toRat_tenTo most]
  exact rounded_le_two_mul (least_le_ten_zpow least)

section Call

variable (bounded : number.isFinite = true) (placesBounded : places.isFinite = true)
  (whole : places.toRat = power)

include placesBounded whole

theorem roundToDecimalPlace_eq :
    number.roundToDecimalPlace places =
      (number.mul (tenTo power)).roundHalfUp.div (tenTo power) := by
  rw [roundToDecimalPlace, ten_pow placesBounded whole]

include bounded

theorem roundToDecimalPlace_eq_nan_iff :
    number.roundToDecimalPlace places = nan ↔ power < -323 ∨ 308 < power := by
  rw [roundToDecimalPlace_eq placesBounded whole]
  rcases lt_or_ge power (-323) with small | least
  · rw [tenTo_of_small (by omega), unscaled_zero bounded]
    exact iff_of_true rfl (.inl small)
  · rcases lt_or_ge 308 power with large | most
    · rw [tenTo_of_large (by omega), unscaled_infinite]
      exact iff_of_true rfl (.inr large)
    · have scale := toRat_tenTo_pos least most
      exact iff_of_false (unscaled_ne_nan bounded (isFinite_tenTo most) scale) (by omega)

theorem isFinite_roundToDecimalPlace_of_small (least : -323 ≤ power) (most : power ≤ 308)
    (small : |number.toRat| ≤ 2 ^ (1021 : Int))
    (scaled : |number.toRat| * 10 ^ power ≤ 2 ^ (1022 : Int)) :
    (number.roundToDecimalPlace places).isFinite = true := by
  rw [roundToDecimalPlace_eq placesBounded whole]
  refine isFinite_unscaled_of_small bounded (isFinite_tenTo most) (toRat_tenTo_pos least most)
    small ?_
  calc |number.toRat| * (tenTo power).toRat ≤ |number.toRat| * (2 * 10 ^ power) := by
        gcongr
        exact toRat_tenTo_le least most
    _ = 2 * (|number.toRat| * 10 ^ power) := mul_left_comm _ _ _
    _ ≤ 2 * 2 ^ (1022 : Int) := by gcongr
    _ = 2 ^ (1023 : Int) := (zpow_one_add₀ two_ne_zero _).symm

end Call

/-- Rounding finite numbers to whole numbers of decimal places.  Nothing is left of a number that is
scaled by more than `10 ^ 308` or less than `10 ^ (-323)`.  With other scales the result is finite
exactly where neither the product nor the quotient overflows, which holds for all numbers that are
up to an eighth of the overflow before they are scaled, and a quarter of it after that.  Elsewhere
it is the infinity with the sign of the number.  That is what calls of the builtin give. -/
theorem roundToDecimalPlace_of_whole :
    (∀ (number places : Double) (power : Int), number.isFinite = true →
      places.isFinite = true → places.toRat = power →
        ten.pow places = tenTo power ∧
        (number.roundToDecimalPlace places = nan ↔ power < -323 ∨ 308 < power) ∧
        (-323 ≤ power → power ≤ 308 →
          ((number.roundToDecimalPlace places).isFinite = true ↔
            |number.toRat * (tenTo power).toRat| < overflow ∧
              |⌊(number.mul (tenTo power)).toRat + 1 / 2⌋ / (tenTo power).toRat| < overflow) ∧
          (¬ (number.roundToDecimalPlace places).isFinite = true →
            number.roundToDecimalPlace places = infinite (decide (number.toRat < 0))) ∧
          (|number.toRat| ≤ 2 ^ (1021 : Int) →
            |number.toRat| * 10 ^ power ≤ 2 ^ (1022 : Int) →
              (number.roundToDecimalPlace places).isFinite = true))) ∧
    ∀ (noise : Noise) (number places : Value) (effects : Effects),
      Builtin.roundToDecimalPlace.call noise [.value number, .value places] effects =
        .ok (.value (.number (number.toNumber.roundToDecimalPlace places.toNumber)), effects) := by
  refine ⟨?_, fun _ _ _ _ => rfl⟩
  intro number places power bounded placesBounded whole
  refine ⟨ten_pow placesBounded whole,
    roundToDecimalPlace_eq_nan_iff bounded placesBounded whole, ?_⟩
  intro least most
  have scaleBounded := isFinite_tenTo most
  have positive := toRat_tenTo_pos least most
  refine ⟨?_, ?_, isFinite_roundToDecimalPlace_of_small bounded placesBounded whole least most⟩
  · rw [roundToDecimalPlace_eq placesBounded whole]
    exact isFinite_unscaled_iff bounded scaleBounded positive
  · rw [roundToDecimalPlace_eq placesBounded whole]
    exact unscaled_eq_infinite bounded scaleBounded positive

/-- One is kept when it is rounded to ten places. -/
theorem roundToDecimalPlace_of_whole_ten :
    one.isFinite = true ∧ ten.isFinite = true ∧ ten.toRat = (10 : Int) ∧
      one.roundToDecimalPlace ten ≠ nan ∧ (one.roundToDecimalPlace ten).isFinite = true := by
  have large : (1 : Rat) ≤ 2 ^ (1021 : Int) := one_le_zpow₀ one_le_two (by decide)
  have scaled : (1 : Rat) * 10 ^ (10 : Int) ≤ 2 ^ (1022 : Int) :=
    calc (1 : Rat) * 10 ^ (10 : Int) ≤ 2 ^ (34 : Int) := by norm_num
      _ ≤ 2 ^ (1022 : Int) := zpow_le_zpow_right₀ one_le_two (by decide)
  have whole : ten.toRat = (10 : Int) := by rw [toRat_ten, Int.cast_ofNat]
  obtain ⟨rounding, _⟩ := roundToDecimalPlace_of_whole
  obtain ⟨_, none, inside⟩ := rounding one ten 10 rfl rfl whole
  obtain ⟨_, _, small⟩ := inside (by decide) (by decide)
  rw [toRat_one, abs_one] at small
  exact ⟨rfl, rfl, whole, mt none.mp (by decide), small large scaled⟩

/-- Four hundred. -/
def fourHundred : Double :=
  finite false 7036874417766400 (-44) (by decide)

/-- One is not kept when it is rounded to four hundred places. -/
theorem not_isFinite_roundToDecimalPlace :
    ¬ ∀ (number places : Double) (power : Int), number.isFinite = true →
      places.isFinite = true → places.toRat = power →
        (number.roundToDecimalPlace places).isFinite = true := by
  intro kept
  have whole : fourHundred.toRat = (400 : Int) := by norm_num [fourHundred, toRat]
  have bounded := kept one fourHundred 400 rfl rfl whole
  have lost : one.roundToDecimalPlace fourHundred = nan :=
    (roundToDecimalPlace_eq_nan_iff rfl rfl whole).mpr (.inr (by decide))
  rw [lost] at bounded
  exact Bool.false_ne_true bounded

end Double

end LineCalc
