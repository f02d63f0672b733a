import LineCalc.Proofs.Double.Order
import Mathlib.Tactic.FieldSimp

/-!
# Results of arithmetic

Each operation on finite doubles is the exact one, rounded to a double.  Rounding keeps the order of
exact numbers, leaves alone the numbers that have no more bits than doubles, and gives a finite
double below the point half-way between the largest one and the power of two above it.
-/

namespace LineCalc

variable {magnitude : Rat}

/-! ## The point from which all is infinite -/

/-- The smallest magnitude that is rounded to an infinity. -/
def overflow : Rat :=
  2 ^ (1024 : Int) - 2 ^ (970 : Int)

theorem overflow_eq : overflow = (9007199254740992 - 1 / 2) * 2 ^ (971 : Int) := by
  rw [overflow, sub_mul, show (1024 : Int) = 53 + 971 by rfl, zpow_add₀ two_ne_zero,
    show (970 : Int) = -1 + 971 by rfl, zpow_add₀ two_ne_zero]
  norm_num

theorem two_zpow_lt_overflow {power : Int} (small : power ≤ 1023) :
    (2 : Rat) ^ power < overflow := by
  have step : (2 : Rat) ^ (970 : Int) < 2 ^ (1023 : Int) :=
    zpow_lt_zpow_right₀ one_lt_two (by decide)
  calc (2 : Rat) ^ power ≤ 2 ^ (1023 : Int) := zpow_le_zpow_right₀ one_le_two small
    _ < 2 ^ (1023 : Int) + (2 ^ (1023 : Int) - 2 ^ (970 : Int)) :=
      lt_add_of_pos_right _ (sub_pos.mpr step)
    _ = overflow := by
      rw [overflow, show (1024 : Int) = 1023 + 1 by rfl, zpow_add_one₀ two_ne_zero, mul_two,
        add_sub_assoc]

theorem overflow_pos : 0 < overflow :=
  (zpow_pos two_pos 0).trans (two_zpow_lt_overflow (by decide))

theorem nearestWhole_le_of_lt {bound : Nat} (below : magnitude < bound + 1 / 2) :
    nearestWhole magnitude ≤ bound := by
  rcases lt_trichotomy ⌊magnitude⌋₊ bound with less | same | beyond
  · exact (nearestWhole_le_floor magnitude).trans less
  · rw [nearestWhole_eq, same, if_pos (by linarith)]
  · have reached : ((bound + 1 : Nat) : Rat) ≤ magnitude := (Nat.le_floor_iff' (by omega)).mp beyond
    push_cast at reached
    linarith

theorem rounded_nonneg (magnitude : Rat) : 0 ≤ rounded magnitude := by
  unfold rounded
  positivity

/-- The tie at the point is broken upwards, to the even significand. -/
theorem rounded_overflow : rounded overflow = 2 ^ (1024 : Int) := by
  decide +kernel

theorem rounded_lt_iff (positive : 0 < magnitude) :
    rounded magnitude < 2 ^ (1024 : Int) ↔ magnitude < overflow := by
  constructor
  · intro small
    by_contra large
    have beyond := rounded_mono overflow_pos (not_lt.mp large)
    rw [rounded_overflow] at beyond
    exact absurd small beyond.not_gt
  · intro small
    have limited : magnitude < 2 ^ (1024 : Int) :=
      small.trans (sub_lt_self _ (by positivity))
    have log := (Int.lt_zpow_iff_log_lt (b := 2) (by decide) positive).mp limited
    have place : placeExponent magnitude ≤ 971 := by
      rw [placeExponent, binaryPosition_eq_log positive]
      omega
    rcases place.lt_or_eq with low | top
    · calc rounded magnitude ≤ 2 ^ (53 : Int) * 2 ^ placeExponent magnitude :=
            rounded_le_of_placeExponent positive
        _ = 2 ^ (53 + placeExponent magnitude) := (zpow_add₀ two_ne_zero _ _).symm
        _ < 2 ^ (1024 : Int) := zpow_lt_zpow_right₀ one_lt_two (by omega)
    · have scaled : magnitude / 2 ^ placeExponent magnitude < (9007199254740991 : Nat) + 1 / 2 := by
        rw [top, div_lt_iff₀ (by positivity)]
        refine small.trans_eq (overflow_eq.trans ?_)
        norm_num
      unfold rounded
      calc (nearestWhole (magnitude / 2 ^ placeExponent magnitude) : Rat) *
            2 ^ placeExponent magnitude
          ≤ (9007199254740991 : Nat) * 2 ^ (971 : Int) := by
            rw [← top]
            gcongr
            exact nearestWhole_le_of_lt scaled
        _ < 2 ^ (53 : Int) * 2 ^ (971 : Int) := by gcongr; norm_num
        _ = 2 ^ (1024 : Int) := (zpow_add₀ two_ne_zero _ _).symm

/-! ## The error of rounding -/

/-- The part of a magnitude that rounding adds or takes away at most. -/
def roundoff : Rat :=
  2 ^ (-53 : Int)

theorem roundoff_pos : 0 < roundoff :=
  zpow_pos two_pos _

theorem roundoff_lt_one : roundoff < 1 := by
  norm_num [roundoff]

theorem abs_nearestWhole_sub_le (nonneg : 0 ≤ magnitude) :
    |(nearestWhole magnitude : Rat) - magnitude| ≤ 1 / 2 := by
  have low := Nat.floor_le nonneg
  have high := Nat.lt_floor_add_one magnitude
  rw [nearestWhole_eq, abs_le]
  split_ifs <;> push_cast <;> constructor <;> linarith

theorem abs_rounded_sub_le (large : 1 ≤ magnitude) :
    |rounded magnitude - magnitude| ≤ roundoff * magnitude := by
  have positive : 0 < magnitude := zero_lt_one.trans_le large
  have normal : -1074 < placeExponent magnitude := by
    have log : 0 ≤ Int.log 2 magnitude :=
      (Int.zpow_le_iff_le_log (by decide) positive).mp (by rwa [zpow_zero])
    rw [placeExponent, binaryPosition_eq_log positive]
    omega
  have bits := le_of_placeExponent positive normal
  have place : (0 : Rat) < 2 ^ placeExponent magnitude := by positivity
  have nearest := abs_nearestWhole_sub_le (div_nonneg positive.le place.le)
  calc |rounded magnitude - magnitude|
      = |(nearestWhole (magnitude / 2 ^ placeExponent magnitude) : Rat) -
          magnitude / 2 ^ placeExponent magnitude| * 2 ^ placeExponent magnitude := by
        rw [← abs_of_nonneg place.le, ← abs_mul, abs_of_nonneg place.le, sub_mul,
          div_mul_cancel₀ _ place.ne', rounded]
    _ ≤ 1 / 2 * 2 ^ placeExponent magnitude := by gcongr
    _ = roundoff * (2 ^ (52 : Int) * 2 ^ placeExponent magnitude) := by
        rw [roundoff, ← mul_assoc, ← zpow_add₀ two_ne_zero]
        norm_num
    _ ≤ roundoff * magnitude := mul_le_mul_of_nonneg_left bits roundoff_pos.le

theorem one_le_rounded (large : 1 ≤ magnitude) : 1 ≤ rounded magnitude := by
  have least : (2 : Rat) ^ (0 : Int) ≤ magnitude := by rwa [zpow_zero]
  have kept := le_rounded (by decide) least
  rwa [zpow_zero] at kept

/-! ## Numbers of the size of doubles -/

/-- The number has no more bits than a double, and does not overflow. -/
structure Representable (exact : Rat) : Prop where
  bits : ∃ significand exponent : Int, significand.natAbs ≤ 9007199254740992 ∧ -1074 ≤ exponent ∧
    exact = significand * 2 ^ exponent
  small : |exact| < overflow

theorem abs_intCast_le {whole : Int} {bound : Nat} (bits : whole.natAbs ≤ bound) :
    |(whole : Rat)| ≤ bound := by
  rw [← Int.cast_abs, ← Int.natCast_natAbs, Int.cast_natCast]
  exact_mod_cast bits

theorem abs_mul_two_zpow_le {significand exponent most : Int}
    (bits : significand.natAbs < 9007199254740992) (le : exponent ≤ most) :
    |(significand : Rat) * 2 ^ exponent| ≤ 9007199254740991 * 2 ^ most := by
  have size : |(significand : Rat)| ≤ (9007199254740991 : Nat) :=
    abs_intCast_le (Nat.le_of_lt_succ bits)
  have scale : (0 : Rat) ≤ 2 ^ exponent := (zpow_pos two_pos exponent).le
  rw [abs_mul, abs_of_nonneg scale]
  exact mul_le_mul size (zpow_le_zpow_right₀ one_le_two le) scale (by norm_num)

theorem representable_of_natAbs_lt {significand exponent : Int}
    (bits : significand.natAbs < 9007199254740992) (least : -1074 ≤ exponent)
    (most : exponent ≤ 971) : Representable (significand * 2 ^ exponent) where
  bits := ⟨significand, exponent, bits.le, least, rfl⟩
  small := by
    refine (abs_mul_two_zpow_le bits most).trans_lt (lt_of_lt_of_eq ?_ overflow_eq.symm)
    gcongr
    norm_num

theorem representable_intCast {whole : Int} (bits : whole.natAbs ≤ 9007199254740992) :
    Representable whole where
  bits := ⟨whole, 0, bits, by decide, by rw [zpow_zero, mul_one]⟩
  small := by
    refine (abs_intCast_le bits).trans_lt ?_
    refine lt_of_eq_of_lt ?_ (two_zpow_lt_overflow (show (53 : Int) ≤ 1023 by decide))
    norm_num

namespace Representable

variable {exact : Rat}

theorem neg (representable : Representable exact) : Representable (-exact) where
  bits := by
    obtain ⟨significand, exponent, bits, least, is⟩ := representable.bits
    refine ⟨-significand, exponent, by rwa [Int.natAbs_neg], least, ?_⟩
    rw [is, Int.cast_neg, neg_mul]
  small := by
    rw [abs_neg]
    exact representable.small

theorem rounded_eq (representable : Representable exact) (positive : 0 < exact) :
    rounded exact = exact := by
  obtain ⟨significand, exponent, bits, least, rfl⟩ := representable.bits
  have scale : (0 : Rat) < 2 ^ exponent := zpow_pos two_pos exponent
  obtain ⟨count, rfl⟩ := Int.eq_ofNat_of_zero_le
    (Int.cast_pos.mp (pos_of_mul_pos_left positive scale.le)).le
  rw [Int.natAbs_natCast] at bits
  rw [Int.cast_natCast] at positive ⊢
  rcases bits.lt_or_eq with fewer | rfl
  · have nonzero : 0 < count := Nat.cast_pos.mp (pos_of_mul_pos_left positive scale.le)
    exact rounded_of_multiple nonzero fewer least
  · have power : ((9007199254740992 : Nat) : Rat) * 2 ^ exponent = 2 ^ (53 + exponent) := by
      rw [zpow_add₀ two_ne_zero]
      norm_num
    rw [power]
    exact rounded_two_zpow (by omega)

end Representable

namespace Double

variable {negative other : Bool} {exact left right : Rat} {number : Double}

/-! ## Rounding with signs -/

theorem ofRat_zero (negative : Bool) : ofRat negative 0 = zero negative :=
  if_pos rfl

theorem ofRat_of_pos (negative : Bool) (positive : 0 < exact) :
    ofRat negative exact = ofMagnitude false exact := by
  rw [ofRat, if_neg positive.ne', if_neg positive.not_gt]

theorem ofRat_of_neg (negative : Bool) (below : exact < 0) :
    ofRat negative exact = (ofMagnitude false (-exact)).neg := by
  rw [ofRat, if_neg below.ne, if_pos below, neg_ofMagnitude, Bool.not_false]

/-- Rounding a positive number gives a finite double or the positive infinity. -/
theorem ofMagnitude_cases (positive : 0 < exact) :
    exact < overflow ∧ (ofMagnitude false exact).isFinite = true ∧
        (ofMagnitude false exact).toRat = rounded exact ∨
      overflow ≤ exact ∧ ofMagnitude false exact = infinite false := by
  rcases lt_or_ge exact overflow with small | large
  · obtain ⟨significand, exponent, canonical, found, value⟩ :=
      ofMagnitude_of_lt false positive ((rounded_lt_iff positive).mpr small)
    rw [found]
    exact .inl ⟨small, rfl, value⟩
  · refine .inr ⟨large, ofMagnitude_of_le false ?_⟩
    exact not_lt.mp (mt (rounded_lt_iff positive).mp large.not_gt)

theorem ofMagnitude_ne_nan (positive : 0 < exact) : ofMagnitude false exact ≠ nan := by
  intro same
  rcases ofMagnitude_cases positive with ⟨_, bounded, _⟩ | ⟨_, infinity⟩
  · rw [same] at bounded
    exact absurd bounded nofun
  · rw [same] at infinity
    exact absurd infinity nofun

theorem neg_ne_nan (isNumber : number ≠ nan) : number.neg ≠ nan := by
  match number with
  | nan => exact absurd rfl isNumber
  | infinite _ | finite .. => exact nofun

theorem isFinite_neg (number : Double) : number.neg.isFinite = number.isFinite := by
  match number with
  | nan | infinite _ | finite .. => rfl

theorem ofRat_ne_nan (negative : Bool) (exact : Rat) : ofRat negative exact ≠ nan := by
  rcases lt_trichotomy exact 0 with below | rfl | above
  · rw [ofRat_of_neg negative below]
    exact neg_ne_nan (ofMagnitude_ne_nan (neg_pos.mpr below))
  · rw [ofRat_zero]
    exact nofun
  · rw [ofRat_of_pos negative above]
    exact ofMagnitude_ne_nan above

/-- Rounding gives a finite double exactly for the numbers below the point of overflow. -/
theorem isFinite_ofRat_iff : (ofRat negative exact).isFinite = true ↔ |exact| < overflow := by
  have ofPositive {exact : Rat} (positive : 0 < exact) :
      (ofMagnitude false exact).isFinite = true ↔ exact < overflow := by
    rcases ofMagnitude_cases positive with ⟨small, bounded, _⟩ | ⟨large, infinity⟩
    · simp [small, bounded]
    · simp [infinity, isFinite, large.not_gt]
  rcases lt_trichotomy exact 0 with below | rfl | above
  · rw [ofRat_of_neg negative below, isFinite_neg, ofPositive (neg_pos.mpr below), abs_of_neg below]
  · simpa [ofRat_zero, zero, isFinite] using overflow_pos
  · rw [ofRat_of_pos negative above, ofPositive above, abs_of_nonneg above.le]

theorem ofRat_of_huge (negative : Bool) (large : overflow ≤ |exact|) :
    ofRat negative exact = infinite (decide (exact < 0)) := by
  rcases lt_trichotomy exact 0 with below | rfl | above
  · rw [abs_of_neg below] at large
    rcases ofMagnitude_cases (neg_pos.mpr below) with ⟨small, _⟩ | ⟨_, infinity⟩
    · exact absurd large small.not_ge
    · rw [ofRat_of_neg negative below, infinity, decide_eq_true below]
      rfl
  · rw [abs_zero] at large
    exact absurd large overflow_pos.not_ge
  · rw [abs_of_nonneg above.le] at large
    rcases ofMagnitude_cases above with ⟨small, _⟩ | ⟨_, infinity⟩
    · exact absurd large small.not_ge
    · rw [ofRat_of_pos negative above, infinity, decide_eq_false above.not_gt]

/-! ## Rounding keeps the order -/

theorem rank_le_infinite (number : Double) : number.rank ≤ (infinite false).rank := by
  match number with
  | infinite true => exact bot_le
  | infinite false => exact le_refl _
  | nan | finite .. => exact WithBot.coe_le_coe.mpr le_top

theorem atMost_infinite (isNumber : number ≠ nan) : number.atMost (infinite false) = true := by
  rw [atMost_iff_rank isNumber (by exact nofun)]
  exact rank_le_infinite number

theorem rank_ofMagnitude_mono (positive : 0 < left) (le : left ≤ right) :
    (ofMagnitude false left).rank ≤ (ofMagnitude false right).rank := by
  rcases ofMagnitude_cases (positive.trans_le le) with ⟨small, bounded, value⟩ | ⟨_, infinity⟩
  · rcases ofMagnitude_cases positive with ⟨_, leftBounded, leftValue⟩ | ⟨large, _⟩
    · rw [rank_le_rank_iff leftBounded bounded, value, leftValue]
      exact rounded_mono positive le
    · exact absurd small (large.trans le).not_gt
  · rw [infinity]
    exact rank_le_infinite _

theorem rank_zero_le_ofRat (negative other : Bool) (nonneg : 0 ≤ exact) :
    (zero other).rank ≤ (ofRat negative exact).rank := by
  rcases nonneg.eq_or_lt with rfl | positive
  · rw [ofRat_zero, rank_le_rank_iff rfl rfl, toRat_zero, toRat_zero]
  · rw [ofRat_of_pos negative positive]
    rcases ofMagnitude_cases positive with ⟨_, bounded, value⟩ | ⟨_, infinity⟩
    · rw [rank_le_rank_iff rfl bounded, toRat_zero, value]
      exact rounded_nonneg exact
    · rw [infinity]
      exact rank_le_infinite _

theorem ofRat_neg (negative other : Bool) (nonzero : exact ≠ 0) :
    ofRat negative (-exact) = (ofRat other exact).neg := by
  rcases nonzero.lt_or_gt with below | above
  · rw [ofRat_of_pos negative (neg_pos.mpr below), ofRat_of_neg other below, neg_neg_eq]
  · rw [ofRat_of_neg negative (neg_lt_zero.mpr above), ofRat_of_pos other above, neg_neg]

theorem rank_ofRat_le_zero (negative other : Bool) (nonpos : exact ≤ 0) :
    (ofRat negative exact).rank ≤ (zero other).rank := by
  rcases nonpos.eq_or_lt with rfl | below
  · rw [ofRat_zero, rank_le_rank_iff rfl rfl, toRat_zero, toRat_zero]
  · rw [ofRat_of_neg negative below, ← ofRat_of_pos false (neg_pos.mpr below)]
    rw [← neg_neg_eq (zero other)]
    refine (rank_neg_le_rank_neg (ofRat_ne_nan _ _) ?_).mpr
      (rank_zero_le_ofRat false (!other) (neg_nonneg.mpr nonpos))
    exact nofun

/-- Rounding keeps the order. -/
theorem rank_ofRat_mono (negative other : Bool) (le : left ≤ right) :
    (ofRat negative left).rank ≤ (ofRat other right).rank := by
  rcases lt_or_ge 0 left with positive | leftNonpos
  · rw [ofRat_of_pos negative positive, ofRat_of_pos other (positive.trans_le le)]
    exact rank_ofMagnitude_mono positive le
  · rcases lt_or_ge right 0 with below | rightNonneg
    · have leftBelow := le.trans_lt below
      rw [ofRat_of_neg negative leftBelow, ofRat_of_neg other below]
      refine (rank_neg_le_rank_neg ?_ ?_).mpr
        (rank_ofMagnitude_mono (neg_pos.mpr below) (neg_le_neg le))
      · exact ofMagnitude_ne_nan (neg_pos.mpr leftBelow)
      · exact ofMagnitude_ne_nan (neg_pos.mpr below)
    · exact (rank_ofRat_le_zero negative false leftNonpos).trans
        (rank_zero_le_ofRat other false rightNonneg)

theorem toRat_ofRat_nonneg (bounded : (ofRat negative exact).isFinite = true)
    (nonneg : 0 ≤ exact) : 0 ≤ (ofRat negative exact).toRat := by
  have above := rank_zero_le_ofRat negative false nonneg
  rwa [rank_le_rank_iff rfl bounded, toRat_zero] at above

theorem toRat_ofRat_nonpos (bounded : (ofRat negative exact).isFinite = true)
    (nonpos : exact ≤ 0) : (ofRat negative exact).toRat ≤ 0 := by
  have below := rank_ofRat_le_zero negative false nonpos
  rwa [rank_le_rank_iff bounded rfl, toRat_zero] at below

/-! ## Exact results -/

theorem toRat_ofRat_of_pos (negative : Bool) (positive : 0 < exact) (small : exact < overflow) :
    (ofRat negative exact).toRat = rounded exact := by
  rw [ofRat_of_pos negative positive]
  rcases ofMagnitude_cases positive with ⟨_, _, value⟩ | ⟨large, _⟩
  · exact value
  · exact absurd small large.not_gt

theorem toRat_ofRat_of_neg (negative : Bool) (below : exact < 0) (small : -exact < overflow) :
    (ofRat negative exact).toRat = -rounded (-exact) := by
  rw [ofRat_of_neg negative below, toRat_neg, ← ofRat_of_pos false (neg_pos.mpr below),
    toRat_ofRat_of_pos false (neg_pos.mpr below) small]

theorem abs_toRat_ofRat (bounded : (ofRat negative exact).isFinite = true) (nonzero : exact ≠ 0) :
    |(ofRat negative exact).toRat| = rounded |exact| := by
  have small := isFinite_ofRat_iff.mp bounded
  rcases nonzero.lt_or_gt with below | above
  · rw [abs_of_neg below] at small ⊢
    rw [toRat_ofRat_of_neg negative below small,
      abs_of_nonpos (neg_nonpos.mpr (rounded_nonneg _)), neg_neg]
  · rw [abs_of_nonneg above.le] at small ⊢
    rw [toRat_ofRat_of_pos negative above small, abs_of_nonneg (rounded_nonneg _)]

/-- Such a number is rounded to itself. -/
theorem ofRat_of_representable (representable : Representable exact) (negative : Bool) :
    (ofRat negative exact).isFinite = true ∧ (ofRat negative exact).toRat = exact := by
  have small := abs_lt.mp representable.small
  refine ⟨isFinite_ofRat_iff.mpr representable.small, ?_⟩
  rcases lt_trichotomy exact 0 with below | rfl | above
  · rw [toRat_ofRat_of_neg negative below (neg_lt.mp small.left),
      representable.neg.rounded_eq (neg_pos.mpr below), neg_neg]
  · rw [ofRat_zero, toRat_zero]
  · rw [toRat_ofRat_of_pos negative above small.right, representable.rounded_eq above]

/-- The exact number of a double, with its bits. -/
theorem exists_toRat_eq (bounded : number.isFinite = true) :
    ∃ significand exponent : Int, significand.natAbs < 9007199254740992 ∧ -1074 ≤ exponent ∧
      exponent ≤ 971 ∧ number.toRat = significand * 2 ^ exponent := by
  match number with
  | nan | infinite _ => exact absurd bounded nofun
  | finite false significand exponent canonical =>
      exact ⟨significand, exponent, canonical.1, canonical.2.1, canonical.2.2.1, rfl⟩
  | finite true significand exponent canonical =>
      refine ⟨-significand, exponent, ?_, canonical.2.1, canonical.2.2.1, ?_⟩
      · rw [Int.natAbs_neg]
        exact canonical.1
      · rw [Int.cast_neg, neg_mul]
        rfl

theorem representable_toRat (bounded : number.isFinite = true) : Representable number.toRat := by
  obtain ⟨_, _, bits, least, most, is⟩ := exists_toRat_eq bounded
  rw [is]
  exact representable_of_natAbs_lt bits least most

/-- Rounded with its own sign, the exact number of a double gives the double. -/
theorem ofRat_toRat (bounded : number.isFinite = true) :
    ofRat number.isNegative number.toRat = number := by
  cases number.kind with
  | nan | infinite => exact absurd bounded nofun
  | zero negative =>
      rw [toRat_zero, ofRat_zero]
      rfl
  | positive positive =>
      rw [ofRat_of_pos _ positive]
      exact (ofMagnitude_eq_iff positive positive).mpr (rounded_toRat positive)
  | @negative number positive =>
      rw [toRat_neg, ofRat_neg _ false positive.ne', ofRat_of_pos _ positive]
      exact congrArg neg ((ofMagnitude_eq_iff positive positive).mpr (rounded_toRat positive))

theorem toRat_half : half.toRat = 1 / 2 := by
  norm_num [half, toRat]

theorem toRat_one : one.toRat = 1 := by
  norm_num [one, toRat]

theorem ofRat_half : ofRat false (1 / 2) = half := by
  rw [← toRat_half]
  exact ofRat_toRat rfl

theorem ofRat_one : ofRat false 1 = one := by
  rw [← toRat_one]
  exact ofRat_toRat rfl

/-! ## Operations on finite doubles -/

section Operations

variable {left right : Double}

theorem add_of_finite (leftFinite : left.isFinite = true) (rightFinite : right.isFinite = true) :
    left.add right =
      ofRat (left.isNegative && right.isNegative) (left.toRat + right.toRat) := by
  match left, right with
  | nan, _ | infinite _, _ => exact absurd leftFinite nofun
  | finite .., nan | finite .., infinite _ => exact absurd rightFinite nofun
  | finite .., finite .. => rfl

theorem sub_of_finite (leftFinite : left.isFinite = true) (rightFinite : right.isFinite = true) :
    left.sub right =
      ofRat (left.isNegative && right.neg.isNegative) (left.toRat - right.toRat) := by
  rw [sub, add_of_finite leftFinite ((isFinite_neg right).trans rightFinite), toRat_neg,
    sub_eq_add_neg]

theorem mul_of_finite (leftFinite : left.isFinite = true) (rightFinite : right.isFinite = true) :
    left.mul right =
      ofRat (left.isNegative != right.isNegative) (left.toRat * right.toRat) := by
  match left, right with
  | nan, _ | infinite _, _ => exact absurd leftFinite nofun
  | finite .., nan | finite .., infinite _ => exact absurd rightFinite nofun
  | finite .., finite .. => rfl

theorem div_of_finite (leftFinite : left.isFinite = true) (rightFinite : right.isFinite = true)
    (nonzero : right.toRat ≠ 0) :
    left.div right =
      ofRat (left.isNegative != right.isNegative) (left.toRat / right.toRat) := by
  match left, right with
  | nan, _ | infinite _, _ => exact absurd leftFinite nofun
  | finite .., nan | finite .., infinite _ => exact absurd rightFinite nofun
  | finite .., finite negative divisor exponent canonical =>
      refine if_neg ?_
      rintro rfl
      exact nonzero (by rw [finite_zero, toRat_zero])

end Operations

end Double

end LineCalc
