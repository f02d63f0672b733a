import LineCalc.Double.Arithmetic
import Mathlib.Algebra.Order.Field.Power
import Mathlib.Data.Int.Log
import Mathlib.Data.Rat.Floor
import Mathlib.Tactic.Linarith
import Mathlib.Tactic.NormNum
import Mathlib.Tactic.Positivity
import Mathlib.Tactic.Ring

/-!
# Rounding to doubles

Rounding takes a positive number to the nearest one with 53 significant bits, or with the smallest
last place.  It never inverts the order of two numbers and leaves numbers alone that have no more
bits.  The double of a number is the rounded number, up to the limit beyond which all is infinite.
-/

namespace LineCalc

/-! ## Powers of two -/

theorem log_eq_of_bounds {magnitude : Rat} {place : Int} (low : (2 : Rat) ^ place ≤ magnitude)
    (high : magnitude < (2 : Rat) ^ (place + 1)) : place = Int.log 2 magnitude := by
  have positive : 0 < magnitude := lt_of_lt_of_le (by positivity) low
  apply le_antisymm
  · exact (Int.zpow_le_iff_le_log (by decide) positive).mp (by exact_mod_cast low)
  · exact Int.lt_add_one_iff.mp
      ((Int.lt_zpow_iff_log_lt (by decide) positive).mp (by exact_mod_cast high))

theorem two_zpow_log_le {magnitude : Rat} (positive : 0 < magnitude) :
    (2 : Rat) ^ Int.log 2 magnitude ≤ magnitude := by
  exact_mod_cast Int.zpow_log_le_self (by decide) positive

theorem lt_two_zpow_log (magnitude : Rat) : magnitude < (2 : Rat) ^ (Int.log 2 magnitude + 1) := by
  exact_mod_cast Int.lt_zpow_succ_log_self (by decide) magnitude

theorem mul_den_eq_natAbs {magnitude : Rat} (nonneg : 0 ≤ magnitude) :
    magnitude * magnitude.den = magnitude.num.natAbs := by
  rw [Rat.mul_den_eq_num, ← Int.cast_natCast, Int.natAbs_of_nonneg (Rat.num_nonneg.mpr nonneg)]

theorem binaryPosition_eq_log {magnitude : Rat} (positive : 0 < magnitude) :
    binaryPosition magnitude = Int.log 2 magnitude := by
  have nonzero : magnitude.num.natAbs ≠ 0 := by simpa using positive.ne'
  have split := mul_den_eq_natAbs positive.le
  have denPositive : (0 : Rat) < magnitude.den := by exact_mod_cast magnitude.den_pos
  have numLow : (2 : Rat) ^ (magnitude.num.natAbs.log2 : Int) ≤ magnitude.num.natAbs := by
    exact_mod_cast Nat.log2_self_le nonzero
  have numHigh : (magnitude.num.natAbs : Rat) < 2 ^ (magnitude.num.natAbs.log2 + 1 : Int) := by
    exact_mod_cast Nat.lt_log2_self
  have denLow : (2 : Rat) ^ (magnitude.den.log2 : Int) ≤ magnitude.den := by
    exact_mod_cast Nat.log2_self_le magnitude.den_nz
  have denHigh : (magnitude.den : Rat) < 2 ^ (magnitude.den.log2 + 1 : Int) := by
    exact_mod_cast Nat.lt_log2_self
  generalize numIs : (magnitude.num.natAbs.log2 : Int) = numLog at numLow numHigh
  generalize denIs : (magnitude.den.log2 : Int) = denLog at denLow denHigh
  have above : magnitude < (2 : Rat) ^ (numLog - denLog + 1) := by
    refine lt_of_mul_lt_mul_right ?_ denPositive.le
    calc magnitude * magnitude.den < 2 ^ (numLog + 1) := split ▸ numHigh
      _ = 2 ^ (numLog - denLog + 1) * 2 ^ denLog := by
        rw [← zpow_add₀ two_ne_zero]
        ring_nf
      _ ≤ 2 ^ (numLog - denLog + 1) * magnitude.den := by gcongr
  have below : (2 : Rat) ^ (numLog - denLog - 1) ≤ magnitude := by
    refine le_of_mul_le_mul_right ?_ denPositive
    calc (2 : Rat) ^ (numLog - denLog - 1) * magnitude.den
        ≤ 2 ^ (numLog - denLog - 1) * 2 ^ (denLog + 1) := by gcongr
      _ = 2 ^ numLog := by
        rw [← zpow_add₀ two_ne_zero]
        ring_nf
      _ ≤ magnitude * magnitude.den := split ▸ numLow
  unfold binaryPosition
  dsimp only
  rw [numIs, denIs]
  split
  · next reached => exact log_eq_of_bounds reached above
  · next missed => exact log_eq_of_bounds below (by simpa using missed)

/-! ## Whole numbers -/

theorem nearestWhole_eq (magnitude : Rat) :
    nearestWhole magnitude =
      if magnitude - ⌊magnitude⌋₊ < 1 / 2 then ⌊magnitude⌋₊
      else if 1 / 2 < magnitude - ⌊magnitude⌋₊ then ⌊magnitude⌋₊ + 1
      else if ⌊magnitude⌋₊ % 2 = 0 then ⌊magnitude⌋₊
      else ⌊magnitude⌋₊ + 1 :=
  rfl

theorem floor_le_nearestWhole (magnitude : Rat) : ⌊magnitude⌋₊ ≤ nearestWhole magnitude := by
  rw [nearestWhole_eq]
  split_ifs <;> omega

theorem nearestWhole_le_floor (magnitude : Rat) : nearestWhole magnitude ≤ ⌊magnitude⌋₊ + 1 := by
  rw [nearestWhole_eq]
  split_ifs <;> omega

theorem nearestWhole_natCast (number : Nat) : nearestWhole number = number := by
  rw [nearestWhole_eq, Nat.floor_natCast, sub_self, if_pos (by norm_num)]

theorem nearestWhole_of_lt_half {magnitude : Rat} (small : magnitude < 1 / 2) :
    nearestWhole magnitude = 0 := by
  have floor : ⌊magnitude⌋₊ = 0 := Nat.floor_eq_zero.mpr (by linarith)
  rw [nearestWhole_eq, floor, Nat.cast_zero, sub_zero, if_pos small]

theorem nearestWhole_mono : Monotone nearestWhole := by
  intro left right le
  rcases (Nat.floor_mono le).lt_or_eq with less | same
  · exact (nearestWhole_le_floor left).trans
      ((Nat.succ_le_of_lt less).trans (floor_le_nearestWhole right))
  · rw [nearestWhole_eq, nearestWhole_eq, same]
    split_ifs <;> first | omega | linarith

/-! ## Rounding of exact numbers -/

/-- The exponent of the last place of the double nearest to a positive number. -/
def placeExponent (magnitude : Rat) : Int :=
  max (binaryPosition magnitude - 52) (-1074)

/-- The nearest number to a positive one, among those with 53 bits or the smallest last place. -/
def rounded (magnitude : Rat) : Rat :=
  nearestWhole (magnitude / 2 ^ placeExponent magnitude) * 2 ^ placeExponent magnitude

section Rounding

variable {magnitude left right : Rat}

theorem placeExponent_mono (positive : 0 < left) (le : left ≤ right) :
    placeExponent left ≤ placeExponent right := by
  have logs := Int.log_mono_right (b := 2) positive le
  rw [placeExponent, placeExponent, binaryPosition_eq_log positive,
    binaryPosition_eq_log (positive.trans_le le)]
  omega

theorem lt_of_placeExponent (positive : 0 < magnitude) :
    magnitude < 2 ^ (53 : Int) * 2 ^ placeExponent magnitude := by
  rw [← zpow_add₀ two_ne_zero]
  refine (lt_two_zpow_log magnitude).trans_le ?_
  refine zpow_le_zpow_right₀ one_le_two ?_
  rw [placeExponent, binaryPosition_eq_log positive]
  omega

theorem le_of_placeExponent (positive : 0 < magnitude)
    (normal : -1074 < placeExponent magnitude) :
    2 ^ (52 : Int) * 2 ^ placeExponent magnitude ≤ magnitude := by
  rw [← zpow_add₀ two_ne_zero]
  refine le_trans ?_ (two_zpow_log_le positive)
  refine zpow_le_zpow_right₀ one_le_two ?_
  rw [placeExponent, binaryPosition_eq_log positive] at normal ⊢
  omega

theorem nearestWhole_le (positive : 0 < magnitude) :
    nearestWhole (magnitude / 2 ^ placeExponent magnitude) ≤ 9007199254740992 := by
  have scaled : magnitude / 2 ^ placeExponent magnitude ≤ (9007199254740992 : Nat) := by
    rw [div_le_iff₀ (by positivity)]
    exact (lt_of_placeExponent positive).le.trans_eq (by norm_num)
  have whole := nearestWhole_mono scaled
  rwa [nearestWhole_natCast] at whole

theorem le_nearestWhole (positive : 0 < magnitude) (normal : -1074 < placeExponent magnitude) :
    4503599627370496 ≤ nearestWhole (magnitude / 2 ^ placeExponent magnitude) := by
  have scaled : (4503599627370496 : Nat) ≤ magnitude / 2 ^ placeExponent magnitude := by
    rw [le_div_iff₀ (by positivity)]
    exact (le_of_placeExponent positive normal).trans_eq' (by norm_num)
  have whole := nearestWhole_mono scaled
  rwa [nearestWhole_natCast] at whole

theorem rounded_le_of_placeExponent (positive : 0 < magnitude) :
    rounded magnitude ≤ 2 ^ (53 : Int) * 2 ^ placeExponent magnitude := by
  unfold rounded
  gcongr
  exact (Nat.cast_le.mpr (nearestWhole_le positive)).trans_eq (by norm_num)

theorem le_rounded_of_placeExponent (positive : 0 < magnitude)
    (normal : -1074 < placeExponent magnitude) :
    2 ^ (52 : Int) * 2 ^ placeExponent magnitude ≤ rounded magnitude := by
  unfold rounded
  gcongr
  exact (Nat.cast_le.mpr (le_nearestWhole positive normal)).trans_eq' (by norm_num)

theorem rounded_mono (positive : 0 < left) (le : left ≤ right) : rounded left ≤ rounded right := by
  rcases (placeExponent_mono positive le).lt_or_eq with less | same
  · have normal : -1074 < placeExponent right := by
      have least : -1074 ≤ placeExponent left := le_max_right _ _
      omega
    calc rounded left ≤ 2 ^ (53 : Int) * 2 ^ placeExponent left :=
          rounded_le_of_placeExponent positive
      _ = 2 ^ (52 : Int) * 2 ^ (placeExponent left + 1) := by
          rw [← zpow_add₀ two_ne_zero, ← zpow_add₀ two_ne_zero]
          ring_nf
      _ ≤ 2 ^ (52 : Int) * 2 ^ placeExponent right := by
          gcongr
          · norm_num
          · omega
      _ ≤ rounded right := le_rounded_of_placeExponent (positive.trans_le le) normal
  · unfold rounded
    rw [same]
    gcongr
    exact nearestWhole_mono (by gcongr)

/-- Less than half of the smallest last place is nothing. -/
theorem nearestWhole_of_tiny (positive : 0 < magnitude) (tiny : magnitude < 2 ^ (-1075 : Int)) :
    placeExponent magnitude = -1074 ∧
      nearestWhole (magnitude / 2 ^ placeExponent magnitude) = 0 := by
  have log := (Int.lt_zpow_iff_log_lt (b := 2) (by decide) positive).mp tiny
  have place : placeExponent magnitude = -1074 := by
    rw [placeExponent, binaryPosition_eq_log positive]
    omega
  refine ⟨place, nearestWhole_of_lt_half ?_⟩
  rw [place, div_lt_iff₀ (by positivity)]
  refine tiny.trans_eq ?_
  rw [show (-1075 : Int) = -1 + -1074 by decide, zpow_add₀ two_ne_zero]
  norm_num

theorem le_of_rounded_pos (positive : 0 < magnitude) (some : 0 < rounded magnitude) :
    2 ^ (-1075 : Int) ≤ magnitude := by
  by_contra less
  obtain ⟨_, none⟩ := nearestWhole_of_tiny positive (not_le.mp less)
  rw [rounded, none, Nat.cast_zero, zero_mul] at some
  exact absurd some (lt_irrefl 0)

/-- A number with at most 53 bits is rounded to itself. -/
theorem rounded_of_multiple {significand : Nat} {exponent : Int} (positive : 0 < significand)
    (bits : significand < 9007199254740992) (least : -1074 ≤ exponent) :
    rounded (significand * 2 ^ exponent) = significand * 2 ^ exponent := by
  have nonzero : (0 : Rat) < significand * 2 ^ exponent := by positivity
  have inside : placeExponent (significand * 2 ^ exponent) ≤ exponent := by
    have high : (significand : Rat) * 2 ^ exponent < (2 : Nat) ^ (53 + exponent) := by
      rw [Nat.cast_ofNat, zpow_add₀ two_ne_zero]
      gcongr
      exact (Nat.cast_lt.mpr bits).trans_eq (by norm_num)
    have log := (Int.lt_zpow_iff_log_lt (by decide) nonzero).mp high
    rw [placeExponent, binaryPosition_eq_log nonzero]
    omega
  obtain ⟨shift, rest⟩ := Int.le.dest inside
  have scaled : (significand : Rat) * 2 ^ exponent /
      2 ^ placeExponent (significand * 2 ^ exponent) = (significand * 2 ^ shift : Nat) := by
    rw [div_eq_iff (by positivity)]
    conv_lhs => rw [← rest]
    rw [zpow_add₀ two_ne_zero, zpow_natCast]
    push_cast
    ring
  rw [rounded, scaled, nearestWhole_natCast, ← scaled, div_mul_cancel₀ _ (by positivity)]

theorem rounded_two_zpow {power : Int} (least : -1074 ≤ power) :
    rounded (2 ^ power) = 2 ^ power := by
  simpa using @rounded_of_multiple 1 power (by decide) (by decide) least

/-- Numbers from a power of two on are rounded to such numbers. -/
theorem le_rounded {power : Int} (least : -1074 ≤ power) (le : 2 ^ power ≤ magnitude) :
    2 ^ power ≤ rounded magnitude :=
  (rounded_two_zpow least).symm.trans_le (rounded_mono (by positivity) le)

theorem rounded_le {power : Int} (least : -1074 ≤ power) (positive : 0 < magnitude)
    (le : magnitude ≤ 2 ^ power) : rounded magnitude ≤ 2 ^ power :=
  (rounded_mono positive le).trans_eq (rounded_two_zpow least)

/-- What lies between two numbers is rounded like both, if they are rounded alike. -/
theorem rounded_of_between (positive : 0 < left) (above : left ≤ magnitude)
    (below : magnitude ≤ right) (same : rounded left = rounded right) :
    rounded magnitude = rounded right :=
  le_antisymm (rounded_mono (positive.trans_le above) below)
    (same.symm.trans_le (rounded_mono positive above))

/-- Numbers that are rounded alike are of like size, unless there is nothing left of them. -/
theorem lt_four_mul (positive : 0 < left) (some : 0 < rounded left)
    (same : rounded left = rounded right) : right < 4 * left := by
  have least : -1075 ≤ Int.log 2 left :=
    (Int.zpow_le_iff_le_log (by decide) positive).mp
      (by exact_mod_cast le_of_rounded_pos positive some)
  have low := two_zpow_log_le positive
  have high := lt_two_zpow_log left
  generalize Int.log 2 left = place at least low high
  by_contra far
  have beyond : (2 : Rat) ^ (place + 1 + 1) ≤ right := by
    rw [zpow_add_one₀ two_ne_zero, zpow_add_one₀ two_ne_zero]
    linarith
  have larger := same ▸ le_rounded (by omega) beyond
  have smaller := rounded_le (by omega) positive high.le
  have less : (2 : Rat) ^ (place + 1) < 2 ^ (place + 1 + 1) :=
    zpow_lt_zpow_right₀ one_lt_two (by omega)
  exact absurd (larger.trans smaller) less.not_ge

/-- Rounding takes less than a twentieth off a number that is at least twenty times the smallest
last place. -/
theorem mul_le_rounded (large : 20 * 2 ^ (-1074 : Int) ≤ magnitude) :
    19 * magnitude ≤ 20 * rounded magnitude := by
  have positive : 0 < magnitude := lt_of_lt_of_le (by positivity) large
  have least : -1074 ≤ Int.log 2 (magnitude / 20) := by
    refine (Int.zpow_le_iff_le_log (by decide) (by positivity)).mp ?_
    rw [Nat.cast_ofNat, le_div_iff₀ (by norm_num)]
    linarith
  have low := two_zpow_log_le (show 0 < magnitude / 20 by positivity)
  have high := lt_two_zpow_log (magnitude / 20)
  generalize Int.log 2 (magnitude / 20) = place at least low high
  rw [zpow_add_one₀ two_ne_zero] at high
  -- the multiple of the power of two that is next below has few bits
  have floorLe := (le_div_iff₀ (by positivity)).mp
    (Nat.floor_le (show 0 ≤ magnitude / 2 ^ place by positivity))
  have ltFloor := (div_lt_iff₀ (by positivity)).mp (Nat.lt_floor_add_one (magnitude / 2 ^ place))
  have nonzero : 0 < ⌊magnitude / 2 ^ place⌋₊ := by
    refine Nat.floor_pos.mpr ((le_div_iff₀ (by positivity)).mpr ?_)
    linarith
  have bits : ⌊magnitude / 2 ^ place⌋₊ < 40 := by
    refine (Nat.floor_lt (by positivity)).mpr ((div_lt_iff₀ (by positivity)).mpr ?_)
    push_cast
    linarith
  generalize ⌊magnitude / 2 ^ place⌋₊ = count at floorLe ltFloor nonzero bits
  have fixed := @rounded_of_multiple count place nonzero (by omega) least
  have below := rounded_mono (by positivity) floorLe
  rw [fixed] at below
  linarith

/-- A whole number that is not rounded beyond 53 bits has no more bits, and stays as it is. -/
theorem rounded_natCast {whole : Nat} (positive : 0 < whole)
    (small : rounded whole < 2 ^ (53 : Int)) : rounded whole = whole := by
  have bits : whole < 9007199254740992 := by
    by_contra beyond
    have large : (2 : Rat) ^ (53 : Int) ≤ whole :=
      (Nat.cast_le.mpr (not_lt.mp beyond)).trans_eq' (by norm_num)
    exact absurd small (le_rounded (by decide) large).not_gt
  simpa using @rounded_of_multiple whole 0 positive bits (by decide)

end Rounding

/-! ## Doubles of exact numbers -/

namespace Canonical

variable {significand other : Nat} {exponent otherExponent : Int}

theorem lt_limit (canonical : Canonical significand exponent) :
    (significand : Rat) * 2 ^ exponent < 2 ^ (1024 : Int) := by
  obtain ⟨bits, _, most, _⟩ := canonical
  calc (significand : Rat) * 2 ^ exponent < 2 ^ (53 : Int) * 2 ^ exponent := by
        gcongr
        exact (Nat.cast_lt.mpr bits).trans_eq (by norm_num)
    _ ≤ 2 ^ (53 : Int) * 2 ^ (971 : Int) := by gcongr; norm_num
    _ = 2 ^ (1024 : Int) := by
        rw [← zpow_add₀ two_ne_zero]
        rfl

theorem exponent_le (canonical : Canonical significand exponent)
    (otherCanonical : Canonical other otherExponent)
    (same : (significand : Rat) * 2 ^ exponent = other * 2 ^ otherExponent) :
    otherExponent ≤ exponent := by
  obtain ⟨bits, least, _, _⟩ := canonical
  obtain ⟨_, _, _, normal⟩ := otherCanonical
  by_contra less
  obtain ⟨shift, rest⟩ := Int.le.dest (show exponent + 1 ≤ otherExponent by omega)
  have scaled : significand = other * (2 * 2 ^ shift) := by
    rw [← rest, zpow_add₀ two_ne_zero, zpow_add₀ two_ne_zero, zpow_natCast, zpow_one] at same
    have cancelled : (significand : Rat) = other * (2 * 2 ^ shift) := by
      refine mul_right_cancel₀ (zpow_ne_zero exponent two_ne_zero) (same.trans ?_)
      ring
    exact_mod_cast cancelled
  have grown : other * 2 ≤ significand := by
    rw [scaled, ← mul_assoc]
    exact Nat.le_mul_of_pos_right _ (by positivity)
  omega

/-- Each number has one canonical form. -/
theorem unique (canonical : Canonical significand exponent)
    (otherCanonical : Canonical other otherExponent)
    (same : (significand : Rat) * 2 ^ exponent = other * 2 ^ otherExponent) :
    significand = other ∧ exponent = otherExponent := by
  obtain rfl : exponent = otherExponent :=
    le_antisymm (otherCanonical.exponent_le canonical same.symm)
      (canonical.exponent_le otherCanonical same)
  have cancelled := mul_right_cancel₀ (zpow_ne_zero exponent two_ne_zero) same
  exact ⟨by exact_mod_cast cancelled, rfl⟩

end Canonical

namespace Double

variable {negative : Bool} {magnitude : Rat} {number : Double}

theorem exists_of_toRat_pos (positive : 0 < number.toRat) :
    ∃ significand exponent, ∃ canonical : Canonical significand exponent,
      0 < significand ∧ number = finite false significand exponent canonical := by
  match number with
  | nan | infinite _ => exact absurd positive (lt_irrefl 0)
  | finite true significand exponent canonical =>
      have : (0 : Rat) ≤ significand * 2 ^ exponent := by positivity
      exact absurd positive (by simpa [toRat] using this)
  | finite false significand exponent canonical =>
      refine ⟨significand, exponent, canonical, ?_, rfl⟩
      rcases Nat.eq_zero_or_pos significand with rfl | nonzero
      · exact absurd positive (by simp [toRat])
      · exact nonzero

/-- Below the limit, a scaled number has a double. -/
theorem ofScaled_of_lt {significand : Nat} {exponent : Int} (negative : Bool)
    (bits : significand ≤ 9007199254740992) (least : -1074 ≤ exponent)
    (normal : 4503599627370496 ≤ significand ∨ exponent = -1074)
    (small : (significand : Rat) * 2 ^ exponent < 2 ^ (1024 : Int)) :
    ∃ found place, ∃ canonical : Canonical found place,
      ofScaled negative significand exponent = finite negative found place canonical ∧
        (found : Rat) * 2 ^ place = significand * 2 ^ exponent := by
  unfold ofScaled
  by_cases plain : Canonical significand exponent
  · rw [dif_pos plain]
    exact ⟨significand, exponent, plain, rfl, rfl⟩
  have bounded (bound : Nat) (power : Int) (is : (bound : Rat) = 2 ^ power)
      (le : bound ≤ significand) : power + exponent < 1024 := by
    refine (zpow_lt_zpow_iff_right₀ (one_lt_two (α := Rat))).mp (lt_of_le_of_lt ?_ small)
    rw [zpow_add₀ two_ne_zero, ← is]
    gcongr
  have most : exponent ≤ 971 := by
    rcases normal with large | rfl
    · have place := bounded _ 52 (by norm_num) large
      omega
    · decide
  obtain rfl : significand = 9007199254740992 := by
    by_contra other
    exact plain ⟨by omega, least, most, normal⟩
  have further := bounded _ 53 (by norm_num) (le_refl _)
  have carried : Canonical 4503599627370496 (exponent + 1) :=
    ⟨by decide, by omega, by omega, .inl (le_refl _)⟩
  rw [dif_neg plain, dif_pos ⟨rfl, carried⟩]
  refine ⟨_, _, carried, rfl, ?_⟩
  rw [zpow_add₀ two_ne_zero]
  push_cast
  ring

theorem ofScaled_of_le {significand : Nat} {exponent : Int} (negative : Bool)
    (large : 2 ^ (1024 : Int) ≤ (significand : Rat) * 2 ^ exponent) :
    ofScaled negative significand exponent = infinite negative := by
  have plain : ¬ Canonical significand exponent :=
    fun canonical => absurd canonical.lt_limit large.not_gt
  have carried : ¬ (significand = 9007199254740992 ∧
      Canonical 4503599627370496 (exponent + 1)) := by
    rintro ⟨rfl, canonical⟩
    refine absurd canonical.lt_limit (large.trans_eq ?_).not_gt
    rw [zpow_add₀ two_ne_zero]
    push_cast
    ring
  rw [ofScaled, dif_neg plain, dif_neg carried]

/-- The double of a positive number is the rounded number, if that is below the limit. -/
theorem ofMagnitude_of_lt (negative : Bool) (positive : 0 < magnitude)
    (small : rounded magnitude < 2 ^ (1024 : Int)) :
    ∃ significand exponent, ∃ canonical : Canonical significand exponent,
      ofMagnitude negative magnitude = finite negative significand exponent canonical ∧
        (significand : Rat) * 2 ^ exponent = rounded magnitude := by
  have least : -1074 ≤ placeExponent magnitude := le_max_right _ _
  refine ofScaled_of_lt negative (nearestWhole_le positive) least ?_ small
  rcases least.lt_or_eq with normal | same
  · exact .inl (le_nearestWhole positive normal)
  · exact .inr same.symm

theorem ofMagnitude_of_le (negative : Bool) (large : 2 ^ (1024 : Int) ≤ rounded magnitude) :
    ofMagnitude negative magnitude = infinite negative :=
  ofScaled_of_le negative large

/-- A double is found for the numbers that are rounded to it. -/
theorem ofMagnitude_eq_iff (positive : 0 < magnitude) (positiveNumber : 0 < number.toRat) :
    ofMagnitude false magnitude = number ↔ rounded magnitude = number.toRat := by
  obtain ⟨significand, exponent, canonical, _, rfl⟩ := exists_of_toRat_pos positiveNumber
  constructor
  · intro same
    rcases lt_or_ge (rounded magnitude) (2 ^ (1024 : Int)) with small | large
    · obtain ⟨_, _, _, found, value⟩ := ofMagnitude_of_lt false positive small
      rw [← same, found, ← value]
      rfl
    · rw [ofMagnitude_of_le false large] at same
      exact absurd same nofun
  · intro same
    have value : rounded magnitude = significand * 2 ^ exponent := same
    obtain ⟨found, place, other, is, otherValue⟩ :=
      ofMagnitude_of_lt false positive (value ▸ canonical.lt_limit)
    obtain ⟨rfl, rfl⟩ := other.unique canonical (otherValue.trans value)
    exact is

theorem rounded_toRat (positive : 0 < number.toRat) : rounded number.toRat = number.toRat := by
  obtain ⟨significand, exponent, canonical, nonzero, rfl⟩ := exists_of_toRat_pos positive
  exact rounded_of_multiple nonzero canonical.1 canonical.2.1

theorem rounded_toRat_pos (positive : 0 < number.toRat) : 0 < rounded number.toRat :=
  positive.trans_eq (rounded_toRat positive).symm

theorem toRat_lt_limit (positive : 0 < number.toRat) : number.toRat < 2 ^ (1024 : Int) := by
  obtain ⟨significand, exponent, canonical, _, rfl⟩ := exists_of_toRat_pos positive
  exact canonical.lt_limit

theorem neg_ofMagnitude (negative : Bool) (magnitude : Rat) :
    (ofMagnitude negative magnitude).neg = ofMagnitude (!negative) magnitude := by
  unfold ofMagnitude ofScaled
  dsimp only
  split_ifs <;> rfl

theorem ofMagnitude_of_huge (negative : Bool) (huge : 2 ^ (1024 : Int) ≤ magnitude) :
    ofMagnitude negative magnitude = infinite negative :=
  ofMagnitude_of_le negative (le_rounded (by decide) huge)

theorem ofMagnitude_of_tiny (negative : Bool) (positive : 0 < magnitude)
    (tiny : magnitude < 2 ^ (-1075 : Int)) : ofMagnitude negative magnitude = zero negative := by
  obtain ⟨place, none⟩ := nearestWhole_of_tiny positive tiny
  have scaled : ofMagnitude negative magnitude = ofScaled negative
      (nearestWhole (magnitude / 2 ^ placeExponent magnitude)) (placeExponent magnitude) := rfl
  rw [scaled, none, place]
  exact dif_pos (by decide)

end Double

end LineCalc
