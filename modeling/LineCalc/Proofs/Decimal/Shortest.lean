import LineCalc.Decimal.Shortest
import LineCalc.Proofs.Decimal.Rounding

/-!
# Shortest decimals

The decimal that the search finds for a positive double is read as that double, and lies on the
coarsest grid that has such a point.  No decimal with fewer digits is read as the double, and none
with as many digits is nearer to it.
-/

namespace LineCalc.Decimal

variable {decimal other : Decimal} {number : Double}

/-! ## Digits and the point -/

/-- How many digits there are. -/
def length (decimal : Decimal) : Nat :=
  (Nat.toDigits 10 decimal.digits).length

/-- How many of the digits stand before the point; less than none with zeros behind the point. -/
def point (decimal : Decimal) : Int :=
  decimal.exponent + decimal.length

theorem length_pos (decimal : Decimal) : 0 < decimal.length :=
  Nat.length_toDigits_pos

theorem length_le_iff {count : Nat} (positive : 0 < count) :
    decimal.length ≤ count ↔ decimal.digits < 10 ^ count :=
  Nat.length_toDigits_le_iff (by decide) positive

theorem digits_lt (decimal : Decimal) : decimal.digits < 10 ^ decimal.length :=
  (length_le_iff decimal.length_pos).mp (le_refl _)

theorem le_digits (nonzero : decimal.digits ≠ 0) : 10 ^ (decimal.length - 1) ≤ decimal.digits := by
  rcases Nat.eq_zero_or_pos (decimal.length - 1) with single | more
  · rw [single, pow_zero]
    exact Nat.pos_of_ne_zero nonzero
  · have longer : ¬ decimal.length ≤ decimal.length - 1 := by omega
    exact not_lt.mp ((length_le_iff more).not.mp longer)

theorem toRat_lt (decimal : Decimal) : decimal.toRat < 10 ^ decimal.point := by
  have digits : (decimal.digits : Rat) < 10 ^ decimal.length := by
    exact_mod_cast decimal.digits_lt
  rw [point, zpow_add₀ (by norm_num), zpow_natCast, mul_comm]
  exact mul_lt_mul_of_pos_right digits (by positivity)

theorem le_toRat (nonzero : decimal.digits ≠ 0) : 10 ^ (decimal.point - 1) ≤ decimal.toRat := by
  have digits : (10 : Rat) ^ (decimal.length - 1) ≤ decimal.digits := by
    exact_mod_cast le_digits nonzero
  have place : decimal.point - 1 = decimal.exponent + (decimal.length - 1 : Nat) := by
    have some := decimal.length_pos
    unfold point
    omega
  rw [place, zpow_add₀ (by norm_num), zpow_natCast, mul_comm]
  exact mul_le_mul_of_nonneg_right digits (by positivity)

theorem toRat_of_exponent {zeros : Nat} (is : decimal.exponent = zeros) :
    decimal.toRat = (decimal.digits * 10 ^ zeros : Nat) := by
  rw [toRat, is, zpow_natCast]
  push_cast
  rfl

/-- Of decimals with the point at different places, the one with more digits before it is larger. -/
theorem toRat_lt_of_point_lt (nonzero : other.digits ≠ 0) (less : decimal.point < other.point) :
    decimal.toRat < 10 ^ (other.point - 1) ∧ 10 ^ (other.point - 1) ≤ other.toRat :=
  ⟨decimal.toRat_lt.trans_le (zpow_le_zpow_right₀ (by norm_num) (by omega)), le_toRat nonzero⟩

/-! ## What is read as a double -/

theorem ReadsAs.digits_ne_zero (positive : 0 < number.toRat) (reads : decimal.ReadsAs number) :
    decimal.digits ≠ 0 :=
  ((readsAs_iff positive).mp reads).1

theorem ReadsAs.rounded_eq (positive : 0 < number.toRat) (reads : decimal.ReadsAs number) :
    rounded decimal.toRat = number.toRat :=
  ((readsAs_iff positive).mp reads).2

theorem ReadsAs.toRat_pos (positive : 0 < number.toRat) (reads : decimal.ReadsAs number) :
    0 < decimal.toRat :=
  Decimal.toRat_pos (reads.digits_ne_zero positive)

theorem readsAs_of_rounded_eq (positive : 0 < number.toRat) (some : 0 < decimal.toRat)
    (same : rounded decimal.toRat = number.toRat) : decimal.ReadsAs number :=
  (readsAs_iff positive).mpr ⟨digits_ne_zero some, same⟩

/-- The exact value of a double is read as the double. -/
theorem readsAs_of_toRat_eq (positive : 0 < number.toRat)
    (exact : decimal.toRat = number.toRat) : decimal.ReadsAs number :=
  readsAs_of_rounded_eq positive (positive.trans_eq exact.symm)
    ((congrArg rounded exact).trans (Double.rounded_toRat positive))

/-- A power of ten takes in the same power of two. -/
theorem toRat_of_two_zpow (significand count places : Nat) :
    (⟨significand * 2 ^ count * 5 ^ places, -places⟩ : Decimal).toRat =
      significand * 2 ^ (count - places : Int) := by
  have ten : (10 : Rat) = 2 * 5 := by norm_num
  rw [toRat, ten, mul_zpow, zpow_sub₀ two_ne_zero, zpow_neg, zpow_neg, zpow_natCast, zpow_natCast,
    zpow_natCast]
  push_cast
  field_simp

/-- Every double is a decimal, since every power of two down to the least is one. -/
theorem exists_toRat_eq (positive : 0 < number.toRat) :
    ∃ digits, (⟨digits, -1074⟩ : Decimal).toRat = number.toRat := by
  obtain ⟨significand, exponent, canonical, _, rfl⟩ := Double.exists_of_toRat_pos positive
  obtain ⟨count, place⟩ := Int.le.dest canonical.2.1
  obtain rfl : exponent = count - (1074 : Nat) := by omega
  exact ⟨_, toRat_of_two_zpow significand count 1074⟩

/-- Between two decimals that are read as a double, all are. -/
theorem ReadsAs.of_between {middle : Decimal} (positive : 0 < number.toRat)
    (reads : decimal.ReadsAs number) (otherReads : other.ReadsAs number)
    (above : decimal.toRat ≤ middle.toRat) (below : middle.toRat ≤ other.toRat) :
    middle.ReadsAs number := by
  have some := reads.toRat_pos positive
  have rounds := otherReads.rounded_eq positive
  refine readsAs_of_rounded_eq positive (some.trans_le above) ?_
  exact (rounded_of_between some above below
    ((reads.rounded_eq positive).trans rounds.symm)).trans rounds

/-- Between a decimal that is read as a double and the double itself, all are. -/
theorem ReadsAs.toward (positive : 0 < number.toRat) (reads : decimal.ReadsAs number)
    (between : decimal.toRat ≤ other.toRat ∧ other.toRat ≤ number.toRat ∨
      number.toRat ≤ other.toRat ∧ other.toRat ≤ decimal.toRat) : other.ReadsAs number := by
  obtain ⟨digits, exact⟩ := exists_toRat_eq positive
  have exactReads := readsAs_of_toRat_eq positive exact
  rcases between with ⟨above, below⟩ | ⟨above, below⟩
  · exact reads.of_between positive exactReads above (below.trans_eq exact.symm)
  · exact exactReads.of_between positive reads (exact.trans_le above) below

/-! ## The search -/

theorem lt_exponentAbove {magnitude : Rat} (positive : 0 < magnitude) :
    magnitude < 10 ^ exponentAbove magnitude := by
  let above : Decimal := ⟨magnitude.num.natAbs, 0⟩
  let below : Decimal := ⟨magnitude.den, 0⟩
  have aboveIs : above.toRat = magnitude.num.natAbs := by simp [above, toRat]
  have belowIs : below.toRat = magnitude.den := by simp [below, toRat]
  have split : magnitude * below.toRat = above.toRat := by
    rw [aboveIs, belowIs, mul_den_eq_natAbs positive.le]
  have least : 10 ^ (below.point - 1) ≤ below.toRat := le_toRat magnitude.den_nz
  have between : exponentAbove magnitude = above.point - (below.point - 1) := by
    simp only [exponentAbove, point, length, above, below]
    omega
  rw [between, zpow_sub₀ (by norm_num), lt_div_iff₀ (by positivity)]
  calc magnitude * 10 ^ (below.point - 1) ≤ magnitude * below.toRat := by gcongr
    _ = above.toRat := split
    _ < 10 ^ above.point := above.toRat_lt

/-- The grid point that is not above a positive number. -/
def below (number : Double) (exponent : Int) : Decimal :=
  ⟨(number.toRat / (10 : Rat) ^ exponent).floor.toNat, exponent⟩

/-- The next grid point. -/
def above (number : Double) (exponent : Int) : Decimal :=
  ⟨(below number exponent).digits + 1, exponent⟩

theorem shortestFrom_succ (number : Double) (bound : Nat) (exponent : Int) :
    shortestFrom number (bound + 1) exponent =
      if (below number exponent).ReadsAs number then
        if (above number exponent).ReadsAs number ∧
            1 / 2 ≤ number.toRat / (10 : Rat) ^ exponent - (below number exponent).digits then
          above number exponent
        else below number exponent
      else if (above number exponent).ReadsAs number then above number exponent
      else shortestFrom number bound (exponent - 1) :=
  rfl

theorem toRat_below_le (positive : 0 < number.toRat) (exponent : Int) :
    (below number exponent).toRat ≤ number.toRat := by
  have floor : ((⌊number.toRat / (10 : Rat) ^ exponent⌋₊ : Nat) : Rat) ≤
      number.toRat / (10 : Rat) ^ exponent := Nat.floor_le (by positivity)
  exact (le_div_iff₀ (by positivity)).mp floor

theorem lt_toRat_above (number : Double) (exponent : Int) :
    number.toRat < (above number exponent).toRat := by
  have floor := Nat.lt_floor_add_one (number.toRat / (10 : Rat) ^ exponent)
  rw [div_lt_iff₀ (by positivity)] at floor
  refine floor.trans_eq ?_
  simp only [above, below, toRat]
  push_cast
  rfl

theorem toRat_mono {least most : Nat} (le : least ≤ most) (exponent : Int) :
    (⟨least, exponent⟩ : Decimal).toRat ≤ (⟨most, exponent⟩ : Decimal).toRat := by
  unfold toRat
  gcongr

/-- Of all points of the grid that are read as the number, one of the two around it is at least as
near on the same side. -/
theorem ReadsAs.below_or_above (positive : 0 < number.toRat) (reads : decimal.ReadsAs number) :
    (below number decimal.exponent).ReadsAs number ∧
        decimal.toRat ≤ (below number decimal.exponent).toRat ∨
      (above number decimal.exponent).ReadsAs number ∧
        (above number decimal.exponent).toRat ≤ decimal.toRat := by
  rcases Nat.lt_or_ge (below number decimal.exponent).digits decimal.digits with more | less
  · have next : (above number decimal.exponent).toRat ≤ decimal.toRat :=
      toRat_mono more decimal.exponent
    exact .inr ⟨reads.toward positive (.inr ⟨(lt_toRat_above number _).le, next⟩), next⟩
  · have next : decimal.toRat ≤ (below number decimal.exponent).toRat :=
      toRat_mono less decimal.exponent
    exact .inl ⟨reads.toward positive (.inl ⟨next, toRat_below_le positive _⟩), next⟩

/-- The upper of the two is as near as the lower, or nearer, if the number lies in the upper half of
what is between them. -/
theorem half_le_iff (number : Double) (exponent : Int) :
    1 / 2 ≤ number.toRat / (10 : Rat) ^ exponent - (below number exponent).digits ↔
      (above number exponent).toRat - number.toRat ≤
        number.toRat - (below number exponent).toRat := by
  have scale : (0 : Rat) < 10 ^ exponent := by positivity
  have lower : (below number exponent).toRat = (below number exponent).digits * 10 ^ exponent := rfl
  have upper : (above number exponent).toRat =
      (below number exponent).digits * 10 ^ exponent + 10 ^ exponent := by
    simp only [above, below, toRat]
    push_cast
    ring
  rw [le_sub_iff_add_le, le_div_iff₀ scale, lower, upper, add_mul]
  constructor <;> intro half <;> linarith

/-- The decimal is read as the number, none on a coarser grid is, and none on the same grid that is
lies nearer to the number. -/
structure Coarsest (decimal : Decimal) (number : Double) : Prop where
  reads : decimal.ReadsAs number
  exponent_le : ∀ other : Decimal, other.ReadsAs number → other.exponent ≤ decimal.exponent
  nearest : ∀ other : Decimal, other.ReadsAs number → other.exponent = decimal.exponent →
    |decimal.toRat - number.toRat| ≤ |other.toRat - number.toRat|

theorem coarsest_below {exponent : Int} (positive : 0 < number.toRat)
    (reads : (below number exponent).ReadsAs number)
    (coarse : ∀ other : Decimal, other.ReadsAs number → other.exponent ≤ exponent)
    (near : (above number exponent).ReadsAs number →
      number.toRat - (below number exponent).toRat ≤
        (above number exponent).toRat - number.toRat) :
    (below number exponent).Coarsest number := by
  refine ⟨reads, coarse, ?_⟩
  rintro other otherReads rfl
  have side := toRat_below_le positive other.exponent
  rw [abs_sub_comm, abs_of_nonneg (sub_nonneg.mpr side)]
  rcases otherReads.below_or_above positive with ⟨_, beyond⟩ | ⟨aboveReads, beyond⟩
  · refine le_trans ?_ (neg_le_abs _)
    linarith
  · refine le_trans ?_ (le_abs_self _)
    linarith [near aboveReads]

theorem coarsest_above {exponent : Int} (positive : 0 < number.toRat)
    (reads : (above number exponent).ReadsAs number)
    (coarse : ∀ other : Decimal, other.ReadsAs number → other.exponent ≤ exponent)
    (near : (below number exponent).ReadsAs number →
      (above number exponent).toRat - number.toRat ≤
        number.toRat - (below number exponent).toRat) :
    (above number exponent).Coarsest number := by
  refine ⟨reads, coarse, ?_⟩
  rintro other otherReads rfl
  have side := (lt_toRat_above number other.exponent).le
  rw [abs_of_nonneg (sub_nonneg.mpr side)]
  rcases otherReads.below_or_above positive with ⟨belowReads, beyond⟩ | ⟨_, beyond⟩
  · refine le_trans ?_ (neg_le_abs _)
    linarith [near belowReads]
  · refine le_trans ?_ (le_abs_self _)
    linarith

/-- The search goes down to the first grid with a point that is read as the number. -/
theorem coarsest_shortestFrom (positive : 0 < number.toRat) (bound : Nat) (exponent : Int)
    (coarse : ∀ other : Decimal, other.ReadsAs number → other.exponent ≤ exponent)
    (reads : decimal.ReadsAs number) (reached : exponent - bound < decimal.exponent) :
    (shortestFrom number bound exponent).Coarsest number := by
  induction bound generalizing exponent with
  | zero =>
      have least := coarse decimal reads
      omega
  | succ bound ih =>
      rw [shortestFrom_succ]
      split_ifs with belowReads upper aboveReads
      · exact coarsest_above positive upper.1 coarse fun _ => (half_le_iff _ _).mp upper.2
      · refine coarsest_below positive belowReads coarse fun aboveReads => ?_
        exact (not_le.mp fun near => upper ⟨aboveReads, (half_le_iff _ _).mpr near⟩).le
      · exact coarsest_above positive aboveReads coarse fun reads => absurd reads belowReads
      · -- neither of the two is read as the number, so no point of this grid is
        refine ih (exponent - 1) (fun other otherReads => ?_) (by omega)
        have le := coarse other otherReads
        have different : other.exponent ≠ exponent := by
          rintro rfl
          rcases otherReads.below_or_above positive with ⟨reads, _⟩ | ⟨reads, _⟩
          · exact belowReads reads
          · exact aboveReads reads
        omega

/-- A decimal on a coarser grid than the first would be ten times as large as the number. -/
theorem ReadsAs.exponent_le (positive : 0 < number.toRat) (reads : decimal.ReadsAs number) :
    decimal.exponent ≤ exponentAbove number.toRat := by
  by_contra coarser
  have start := lt_exponentAbove positive
  have least := ten_zpow_le_toRat (reads.digits_ne_zero positive)
  have near := lt_four_mul positive (Double.rounded_toRat_pos positive)
    ((Double.rounded_toRat positive).trans (reads.rounded_eq positive).symm)
  have far : (10 : Rat) ^ (exponentAbove number.toRat + 1) ≤ 10 ^ decimal.exponent :=
    zpow_le_zpow_right₀ (by norm_num) (by omega)
  rw [zpow_add_one₀ (by norm_num)] at far
  linarith

theorem coarsest_shortest (positive : 0 < number.toRat) : (shortest number).Coarsest number := by
  obtain ⟨digits, exact⟩ := exists_toRat_eq positive
  have reads := readsAs_of_toRat_eq positive exact
  have start : -1074 ≤ exponentAbove number.toRat := reads.exponent_le positive
  refine coarsest_shortestFrom positive _ _ (fun _ => ReadsAs.exponent_le positive) reads ?_
  have last : exponentAbove number.toRat - (exponentAbove number.toRat + 1075).toNat < -1074 := by
    omega
  exact last

/-! ## Number of digits -/

/-- The decimal is read as the number, none with fewer digits is, and none with as many digits that
is lies nearer to the number. -/
structure IsShortest (decimal : Decimal) (number : Double) : Prop where
  reads : decimal.ReadsAs number
  length_le : ∀ other : Decimal, other.ReadsAs number → decimal.length ≤ other.length
  closest : ∀ other : Decimal, other.ReadsAs number → other.length = decimal.length →
    |decimal.toRat - number.toRat| ≤ |other.toRat - number.toRat|

theorem mul_two_zpow_le_iff (left right twos tens : Nat) :
    (left : Rat) * 2 ^ (-twos : Int) ≤ right * 10 ^ (-tens : Int) ↔
      left * 10 ^ tens ≤ right * 2 ^ twos := by
  rw [zpow_neg, zpow_neg, zpow_natCast, zpow_natCast, ← div_eq_mul_inv, ← div_eq_mul_inv,
    div_le_div_iff₀ (by positivity) (by positivity)]
  exact_mod_cast Iff.rfl

/-- Rounding takes less than a twentieth off a power of ten, unless nothing is left of it. -/
theorem mul_ten_zpow_le_rounded {power : Int} (some : 0 < rounded (10 ^ power)) :
    19 * (10 : Rat) ^ power ≤ 20 * rounded (10 ^ power) := by
  rcases le_or_gt (20 * 2 ^ (-1074 : Int)) ((10 : Rat) ^ power) with many | few
  · exact mul_le_rounded many
  -- only one power of ten is so small that doubles lie far apart there, and not yet nothing
  have small : (10 : Rat) ^ power < 10 ^ (-322 : Int) := by
    have bound : (20 : Rat) * 2 ^ (-1074 : Int) ≤ 1 * 10 ^ (-322 : Int) :=
      (mul_two_zpow_le_iff 20 1 1074 322).mpr (by decide +kernel)
    linarith
  have large : (10 : Rat) ^ (-324 : Int) < 10 ^ power := by
    have least := le_of_rounded_pos (by positivity) some
    have bound : ¬ (1 : Rat) * 2 ^ (-1075 : Int) ≤ 1 * 10 ^ (-324 : Int) :=
      (mul_two_zpow_le_iff 1 1 1075 324).not.mpr (by decide +kernel)
    linarith
  have above := (zpow_lt_zpow_iff_right₀ (by norm_num)).mp small
  have below := (zpow_lt_zpow_iff_right₀ (by norm_num)).mp large
  obtain rfl : power = -323 := by omega
  have reached : (1 : Rat) * 2 ^ (-1073 : Int) ≤ 1 * 10 ^ (-323 : Int) :=
    (mul_two_zpow_le_iff 1 1 1073 323).mpr (by decide +kernel)
  have near : ¬ (20 : Rat) * 2 ^ (-1073 : Int) ≤ 19 * 10 ^ (-323 : Int) :=
    (mul_two_zpow_le_iff 20 19 1073 323).not.mpr (by decide +kernel)
  rw [one_mul, one_mul] at reached
  linarith [le_rounded (by decide) reached]

namespace Coarsest

/-- If a decimal with fewer digits before the point is read as the number, the power of ten between
is, which has a single digit. -/
theorem of_point_lt (positive : 0 < number.toRat) (coarsest : decimal.Coarsest number)
    (reads : other.ReadsAs number) (less : other.point < decimal.point) :
    (⟨1, decimal.exponent⟩ : Decimal).ReadsAs number ∧ decimal.length = 1 := by
  obtain ⟨above, below⟩ := toRat_lt_of_point_lt (coarsest.reads.digits_ne_zero positive) less
  let power : Decimal := ⟨1, decimal.point - 1⟩
  have value : power.toRat = 10 ^ (decimal.point - 1) := by simp [power, toRat]
  have powerReads : power.ReadsAs number :=
    reads.of_between positive coarsest.reads (value ▸ above.le) (value ▸ below)
  have coarse : decimal.point - 1 ≤ decimal.exponent := coarsest.exponent_le power powerReads
  have some := decimal.length_pos
  have single : decimal.length = 1 := by
    unfold point at coarse
    omega
  have place : decimal.point - 1 = decimal.exponent := by
    rw [point, single]
    omega
  exact ⟨place ▸ powerReads, single⟩

theorem length_le (positive : 0 < number.toRat) (coarsest : decimal.Coarsest number)
    (reads : other.ReadsAs number) : decimal.length ≤ other.length := by
  by_contra shorter
  have finer := coarsest.exponent_le other reads
  have less : other.point < decimal.point := by
    unfold point
    omega
  have single := (coarsest.of_point_lt positive reads less).2
  have some := other.length_pos
  omega

/-- A decimal on a finer grid that has as few digits has one, and lies below a power of ten that is
nearer. -/
theorem closest (positive : 0 < number.toRat) (coarsest : decimal.Coarsest number)
    (reads : other.ReadsAs number) (same : other.length = decimal.length) :
    |decimal.toRat - number.toRat| ≤ |other.toRat - number.toRat| := by
  rcases (coarsest.exponent_le other reads).eq_or_lt with equal | finer
  · exact coarsest.nearest other reads equal
  have less : other.point < decimal.point := by
    unfold point
    omega
  obtain ⟨powerReads, single⟩ := coarsest.of_point_lt positive reads less
  have value : (⟨1, decimal.exponent⟩ : Decimal).toRat = 10 ^ decimal.exponent := by simp [toRat]
  have bound := coarsest.nearest _ powerReads rfl
  have rounds := powerReads.rounded_eq positive
  rw [value] at bound rounds
  have digit : (other.digits : Rat) ≤ 9 := by
    have digits := (length_le_iff Nat.one_pos).mp (same.trans single).le
    exact_mod_cast Nat.le_of_lt_succ digits
  have small : other.toRat ≤ 9 * 10 ^ (decimal.exponent - 1) := by
    unfold toRat
    gcongr
    · norm_num
    · omega
  -- the number is within a twentieth of the power, the other decimal a tenth or more below it
  have near := mul_ten_zpow_le_rounded (rounds.symm ▸ positive)
  rw [rounds] at near
  rw [zpow_sub_one₀ (by norm_num)] at small
  have far : number.toRat - other.toRat ≤ |other.toRat - number.toRat| := by
    rw [abs_sub_comm]
    exact le_abs_self _
  refine (bound.trans ?_).trans far
  rw [abs_le]
  have place : (0 : Rat) < 10 ^ decimal.exponent := by positivity
  constructor <;> linarith

theorem isShortest (positive : 0 < number.toRat) (coarsest : decimal.Coarsest number) :
    decimal.IsShortest number :=
  ⟨coarsest.reads, fun _ => coarsest.length_le positive, fun _ => coarsest.closest positive⟩

end Coarsest

theorem isShortest_shortest (positive : 0 < number.toRat) : (shortest number).IsShortest number :=
  (coarsest_shortest positive).isShortest positive

end LineCalc.Decimal
