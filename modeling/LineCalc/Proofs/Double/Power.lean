import LineCalc.Double.Elementary
import LineCalc.Proofs.Double.Arithmetic

/-!
# Powers of ten

A power of ten with a whole exponent is the double nearest to it.  Exponents of ordinary size are
taken exactly.  For the others the approximation of a logarithm decides, and of that no more is
needed than that it is not less than one: the double is an infinity or zero in any case.
-/

namespace LineCalc

/-! ## The logarithm of ten -/

namespace Fixed

variable {places bound index : Nat} {share next : Nat → Fixed places → Fixed places}
  {number power : Fixed places}

theorem scale_eq (places : Nat) : scale places = 2 ^ places :=
  Nat.one_shiftLeft places

theorem scale_pos (places : Nat) : 0 < scale places := by
  rw [scale_eq]
  positivity

theorem units_ofRat (exact : Rat) :
    (ofRat exact : Fixed places).units = ⌊exact * scale places⌋ :=
  rfl

theorem seriesFrom_nonneg
    (shares : ∀ index power, 0 ≤ power.units → 0 ≤ (share index power).units)
    (powers : ∀ index power, 0 ≤ power.units → 0 ≤ (next index power).units)
    (nonneg : 0 ≤ power.units) : 0 ≤ (seriesFrom share next bound index power).units := by
  induction bound generalizing index power with
  | zero => exact le_refl _
  | succ bound ih =>
      rw [seriesFrom]
      split
      · exact le_refl _
      · exact add_nonneg (shares index power nonneg) (ih (powers index power nonneg))

/-- A sum of nonnegative shares is no less than the first one. -/
theorem le_series
    (shares : ∀ index power, 0 ≤ power.units → 0 ≤ (share index power).units)
    (powers : ∀ index power, 0 ≤ power.units → 0 ≤ (next index power).units)
    (positive : 0 < power.units) : (share 0 power).units ≤ (series share next power).units := by
  rw [series, seriesFrom, if_neg positive.ne']
  exact le_add_of_nonneg_right (seriesFrom_nonneg shares powers (powers 0 power positive.le))

theorem part_nonneg (nonneg : 0 ≤ number.units) (divisor : Nat) :
    0 ≤ (number.part divisor).units :=
  Int.tdiv_nonneg nonneg (Int.natCast_nonneg divisor)

theorem mul_nonneg (left : 0 ≤ number.units) (right : 0 ≤ power.units) :
    0 ≤ (number * power).units :=
  Int.tdiv_nonneg (Int.mul_nonneg left right) (Int.natCast_nonneg _)

theorem le_artanh (nonneg : 0 ≤ number.units) : number.units ≤ number.artanh.units := by
  rcases nonneg.eq_or_lt with none | positive
  · rw [← none]
    exact seriesFrom_nonneg (fun _ _ nonneg => part_nonneg nonneg _)
      (fun _ _ power => mul_nonneg power (mul_nonneg nonneg nonneg)) nonneg
  · have first : (number.part 1).units ≤ number.artanh.units := by
      unfold artanh
      exact le_series (fun _ _ nonneg => part_nonneg nonneg _)
        (fun _ _ power => mul_nonneg power (mul_nonneg nonneg nonneg)) positive
    exact (Int.tdiv_one _).ge.trans first

theorem le_logTwo (places : Nat) :
    2 * ((scale places : Int) / 3) ≤ (logTwo : Fixed places).units := by
  have nonneg : 0 ≤ ((one : Fixed places).part 3).units :=
    part_nonneg (Int.natCast_nonneg _) 3
  have third : ((one : Fixed places).part 3).units = (scale places : Int) / 3 := by
    change (scale places : Int).tdiv 3 = _
    exact Int.tdiv_eq_ediv_of_nonneg (Int.natCast_nonneg _)
  rw [← third]
  exact Int.mul_le_mul_of_nonneg_left (le_artanh nonneg) (by decide)

theorem log_ten (places : Nat) :
    (log 10 : Fixed places) = times 3 logTwo + times 2 (artanh (ofRat (1 / 9))) := by
  have position : binaryPosition 10 = 3 := rfl
  have scaled : (10 : Rat) / 2 ^ (3 : Int) = 5 / 4 := by norm_num
  have small : ¬ (2 : Rat) < 5 / 4 * (5 / 4) := by norm_num
  have rest : ((5 / 4 : Rat) - 1) / (5 / 4 + 1) = 1 / 9 := by norm_num
  rw [log]
  dsimp only
  rw [position, scaled, if_neg small]
  dsimp only
  rw [rest]

theorem scale_le_log_ten (precise : 2 ≤ places) :
    (scale places : Int) ≤ (log 10 : Fixed places).units := by
  have unit : 4 ≤ scale places := by
    rw [scale_eq]
    exact Nat.pow_le_pow_right (by decide : 0 < 2) precise
  have ninth : 0 ≤ (ofRat (1 / 9) : Fixed places).units := by
    rw [units_ofRat]
    positivity
  have rest := ninth.trans (le_artanh ninth)
  have two := le_logTwo places
  have sum : (log 10 : Fixed places).units =
      3 * (logTwo : Fixed places).units + 2 * (artanh (ofRat (1 / 9) : Fixed places)).units := by
    rw [log_ten]
    rfl
  omega

theorem one_le_log_ten (precise : 2 ≤ places) : 1 ≤ (log 10 : Fixed places).toRat := by
  rw [toRat, one_le_div (Nat.cast_pos.mpr (scale_pos places))]
  exact_mod_cast scale_le_log_ten precise

end Fixed

/-! ## Powers of ten -/

namespace Double

variable {number places : Double} {power : Int}

/-- The double nearest to a power of ten. -/
def tenTo (power : Int) : Double :=
  ofRat false (10 ^ power)

/-- The powers of ten next to the largest double, and to the smallest one. -/
theorem ten_zpow_limits :
    (10 : Rat) ^ (308 : Int) < overflow ∧ (2 : Rat) ^ (1024 : Int) ≤ 10 ^ (309 : Int) ∧
      (2 : Rat) ^ (-1074 : Int) ≤ 10 ^ (-323 : Int) ∧
      (10 : Rat) ^ (-324 : Int) < 2 ^ (-1075 : Int) := by
  decide +kernel

theorem tenTo_of_large (large : 309 ≤ power) : tenTo power = infinite false := by
  rw [tenTo, ofRat_of_pos false (by positivity)]
  refine ofMagnitude_of_huge false ?_
  calc (2 : Rat) ^ (1024 : Int) ≤ 10 ^ (309 : Int) := ten_zpow_limits.2.1
    _ ≤ 10 ^ power := zpow_le_zpow_right₀ (by norm_num) large

theorem tenTo_of_small (small : power ≤ -324) : tenTo power = zero false := by
  rw [tenTo, ofRat_of_pos false (by positivity)]
  refine ofMagnitude_of_tiny false (by positivity) ?_
  calc (10 : Rat) ^ power ≤ 10 ^ (-324 : Int) := zpow_le_zpow_right₀ (by norm_num) small
    _ < 2 ^ (-1075 : Int) := ten_zpow_limits.2.2.2

theorem least_le_ten_zpow (least : -323 ≤ power) :
    (2 : Rat) ^ (-1074 : Int) ≤ 10 ^ power :=
  calc (2 : Rat) ^ (-1074 : Int) ≤ 10 ^ (-323 : Int) := ten_zpow_limits.2.2.1
    _ ≤ 10 ^ power := zpow_le_zpow_right₀ (by norm_num) least

theorem ten_zpow_lt_overflow (most : power ≤ 308) : (10 : Rat) ^ power < overflow :=
  calc (10 : Rat) ^ power ≤ 10 ^ (308 : Int) := zpow_le_zpow_right₀ (by norm_num) most
    _ < overflow := ten_zpow_limits.1

theorem isFinite_tenTo (most : power ≤ 308) : (tenTo power).isFinite = true := by
  rw [tenTo, isFinite_ofRat_iff, abs_of_nonneg (by positivity)]
  exact ten_zpow_lt_overflow most

theorem toRat_tenTo (most : power ≤ 308) : (tenTo power).toRat = rounded (10 ^ power) :=
  toRat_ofRat_of_pos false (by positivity) (ten_zpow_lt_overflow most)

theorem toRat_tenTo_pos (least : -323 ≤ power) (most : power ≤ 308) : 0 < (tenTo power).toRat := by
  rw [toRat_tenTo most]
  exact (zpow_pos two_pos _).trans_le (le_rounded le_rfl (least_le_ten_zpow least))

theorem expOf_of_large {bits : Nat} {exponent : Fixed bits}
    (large : 720 * (Fixed.scale bits : Int) < exponent.units) : expOf exponent = infinite false :=
  if_pos large

theorem expOf_of_small {bits : Nat} {exponent : Fixed bits}
    (small : exponent.units < -760 * (Fixed.scale bits : Int)) : expOf exponent = zero false := by
  have unit := Fixed.scale_pos bits
  rw [expOf, if_neg (by omega), if_pos small]

theorem toRat_ten : ten.toRat = 10 := by
  norm_num [ten, toRat]

/-- Whole exponents need no roots. -/
theorem powOf_of_whole (bound : Nat) (base : Rat) (power : Int) :
    powOf bound base power =
      if power.natAbs ≤ 1100 then ofRat false (base ^ power)
      else
        expOf (Fixed.ofRat (power *
          (Fixed.log base : Fixed (ordinaryPlaces + extent base + extent power)).toRat) :
            Fixed ordinaryPlaces) := by
  rw [powOf.eq_def]
  dsimp only
  rw [Rat.den_intCast, Rat.num_intCast]
  simp only [true_and, if_true]
  split
  · rfl
  · split <;> rfl

theorem powOf_ten (bound : Nat) (power : Int) : powOf bound 10 power = tenTo power := by
  rw [powOf_of_whole]
  split
  · rfl
  · next far =>
    have log := Fixed.one_le_log_ten
      (show 2 ≤ ordinaryPlaces + extent 10 + extent power by rw [ordinaryPlaces]; omega)
    generalize
      (Fixed.log 10 : Fixed (ordinaryPlaces + extent 10 + extent power)).toRat = value at log
    have unit := Fixed.scale_pos ordinaryPlaces
    have positive : (0 : Rat) < Fixed.scale ordinaryPlaces := Nat.cast_pos.mpr unit
    rcases le_or_gt 0 power with nonneg | negative
    · have least : (1101 : Rat) ≤ power := by exact_mod_cast (show 1101 ≤ power by omega)
      have beyond : 1101 * (Fixed.scale ordinaryPlaces : Int) ≤
          (Fixed.ofRat (power * value) : Fixed ordinaryPlaces).units := by
        rw [Fixed.units_ofRat, Int.le_floor]
        push_cast
        gcongr
        exact least.trans (le_mul_of_one_le_right (by linarith) log)
      rw [tenTo_of_large (by omega), expOf_of_large (by omega)]
    · have most : (power : Rat) ≤ -1101 := by exact_mod_cast (show power ≤ -1101 by omega)
      have beyond : (Fixed.ofRat (power * value) : Fixed ordinaryPlaces).units <
          -760 * (Fixed.scale ordinaryPlaces : Int) := by
        rw [Fixed.units_ofRat, Int.floor_lt]
        push_cast
        gcongr
        exact (mul_le_of_one_le_right (by linarith) log).trans_lt (by linarith)
      rw [tenTo_of_small (by omega), expOf_of_small beyond]

/-- A power of ten with a whole exponent is the double nearest to it. -/
theorem ten_pow (bounded : places.isFinite = true) (whole : places.toRat = power) :
    ten.pow places = tenTo power := by
  by_cases none : places.toRat = 0
  · rw [pow.eq_def, if_pos (.inl ⟨none, bounded⟩)]
    obtain rfl : power = 0 := Int.cast_eq_zero.mp (whole.symm.trans none)
    rw [tenTo, zpow_zero, ofRat_one]
  · have other : ¬ ten = one := by decide
    rw [pow.eq_def, if_neg (by simp [none, other])]
    match places with
    | nan | infinite _ => exact absurd bounded nofun
    | finite down significand exponent canonical =>
        change powOf 12 ten.toRat (finite down significand exponent canonical).toRat = _
        rw [toRat_ten, whole, powOf_ten]

end Double

end LineCalc
