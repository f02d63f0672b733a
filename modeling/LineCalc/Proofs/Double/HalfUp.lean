import LineCalc.Builtin.Call
import LineCalc.Proofs.Double.Arithmetic

/-!
# Rounding half up

To round half up, the distance from the whole number below is compared with one half, and one is
added where it is not less.  Neither the comparison nor the sum suffers from the rounding of their
results: a distance of less than one half has no more bits than a double, and only numbers without
places behind the point are so large that adding one to them is not exact.
-/

namespace LineCalc.Double

variable {number : Double}

/-! ## The whole number below -/

/-- Large doubles are whole. -/
theorem exists_intCast_or_abs_lt (bounded : number.isFinite = true) :
    (∃ whole : Int, number.toRat = whole) ∨ |number.toRat| < 4503599627370496 := by
  obtain ⟨significand, exponent, bits, _, _, is⟩ := exists_toRat_eq bounded
  rcases le_or_gt 0 exponent with nonneg | negative
  · obtain ⟨shift, rfl⟩ := Int.eq_ofNat_of_zero_le nonneg
    refine .inl ⟨significand * 2 ^ shift, ?_⟩
    rw [is, zpow_natCast]
    push_cast
    rfl
  · right
    rw [is]
    refine (abs_mul_two_zpow_le bits (show exponent ≤ -1 by omega)).trans_lt ?_
    norm_num

theorem natAbs_floor_le {exact : Rat} {bound : Nat} (small : |exact| < bound) :
    ⌊exact⌋.natAbs ≤ bound := by
  obtain ⟨low, high⟩ := abs_lt.mp small
  have above : -(bound : Int) ≤ ⌊exact⌋ := Int.le_floor.mpr (by exact_mod_cast low.le)
  have below : ⌊exact⌋ < bound := Int.floor_lt.mpr (by exact_mod_cast high)
  omega

theorem representable_floor (bounded : number.isFinite = true) :
    Representable ⌊number.toRat⌋ := by
  rcases exists_intCast_or_abs_lt bounded with ⟨whole, is⟩ | small
  · rw [is, Int.floor_intCast, ← is]
    exact representable_toRat bounded
  · have bits := natAbs_floor_le
      (show |number.toRat| < (4503599627370496 : Nat) by exact_mod_cast small)
    exact representable_intCast (bits.trans (by decide))

theorem floor_of_finite (bounded : number.isFinite = true) :
    number.floor = ofRat number.isNegative ⌊number.toRat⌋ :=
  if_pos bounded

theorem toRat_floor (bounded : number.isFinite = true) :
    number.floor.isFinite = true ∧ number.floor.toRat = ⌊number.toRat⌋ := by
  rw [floor_of_finite bounded]
  exact ofRat_of_representable (representable_floor bounded) number.isNegative

/-! ## The distance from it -/

/-- With few places behind the point, the distance has no more bits than they are. -/
theorem representable_fract_of_few {significand exponent : Int} (few : -53 ≤ exponent)
    (places : exponent ≤ 0) : Representable (Int.fract ((significand : Rat) * 2 ^ exponent)) := by
  obtain ⟨shift, is⟩ := Int.eq_ofNat_of_zero_le (Int.neg_nonneg_of_nonpos places)
  obtain rfl : exponent = -shift := by omega
  generalize below : ⌊(significand : Rat) * 2 ^ (-(shift : Int))⌋ = whole
  have scaled : Int.fract ((significand : Rat) * 2 ^ (-(shift : Int))) =
      (significand - whole * 2 ^ shift : Int) * 2 ^ (-(shift : Int)) := by
    rw [Int.fract, below, zpow_neg, zpow_natCast]
    push_cast
    field_simp
  have nonneg := Int.fract_nonneg ((significand : Rat) * 2 ^ (-(shift : Int)))
  have less := Int.fract_lt_one ((significand : Rat) * 2 ^ (-(shift : Int)))
  have scale : (0 : Rat) < 2 ^ (-(shift : Int)) := zpow_pos two_pos _
  rw [scaled] at nonneg less ⊢
  have low := Int.cast_nonneg_iff.mp (nonneg_of_mul_nonneg_left nonneg scale)
  have high : ((significand - whole * 2 ^ shift : Int) : Rat) < (9007199254740992 : Int) := by
    calc ((significand - whole * 2 ^ shift : Int) : Rat) < 1 / 2 ^ (-(shift : Int)) :=
          (lt_div_iff₀ scale).mpr less
      _ = 2 ^ shift := by rw [zpow_neg, zpow_natCast, one_div, inv_inv]
      _ ≤ 2 ^ 53 := pow_le_pow_right₀ one_le_two (by omega)
      _ = (9007199254740992 : Int) := by norm_num
  have bits := Int.cast_lt.mp high
  exact representable_of_natAbs_lt (by omega) (by omega) (by omega)

/-- A distance of less than one half has no more bits than a double.  Small negative numbers, which
have more places behind the point, are further from the whole number below. -/
theorem representable_fract (bounded : number.isFinite = true)
    (less : Int.fract number.toRat < 1 / 2) : Representable (Int.fract number.toRat) := by
  obtain ⟨significand, exponent, bits, _, _, is⟩ := exists_toRat_eq bounded
  rcases lt_or_ge exponent (-53) with many | few
  · have size : |number.toRat| < 1 / 2 := by
      rw [is]
      refine (abs_mul_two_zpow_le bits (show exponent ≤ -54 by omega)).trans_lt ?_
      norm_num
    obtain ⟨low, high⟩ := abs_lt.mp size
    rcases lt_or_ge number.toRat 0 with negative | nonneg
    · have below : ⌊number.toRat⌋ = -1 := by
        rw [Int.floor_eq_iff]
        push_cast
        constructor <;> linarith
      rw [Int.fract, below, Int.cast_neg, Int.cast_one] at less
      linarith
    · rw [Int.fract_eq_self.mpr ⟨nonneg, by linarith⟩]
      exact representable_toRat bounded
  · rcases le_or_gt exponent 0 with places | none
    · rw [is]
      exact representable_fract_of_few few places
    · obtain ⟨shift, rfl⟩ := Int.eq_ofNat_of_zero_le none.le
      have whole : number.toRat = (significand * 2 ^ shift : Int) := by
        rw [is]
        push_cast
        rw [zpow_natCast]
      rw [whole, Int.fract_intCast]
      exact representable_intCast (show (0 : Int).natAbs ≤ 9007199254740992 by decide)

theorem sub_floor (bounded : number.isFinite = true) :
    ∃ negative, number.sub number.floor = ofRat negative (Int.fract number.toRat) := by
  obtain ⟨below, value⟩ := toRat_floor bounded
  rw [sub_of_finite bounded below, value]
  exact ⟨_, rfl⟩

/-- The rounded distance is on the same side of one half as the exact one. -/
theorem half_atMost_sub_floor (bounded : number.isFinite = true) :
    half.atMost (number.sub number.floor) = true ↔ 1 / 2 ≤ Int.fract number.toRat := by
  obtain ⟨negative, distance⟩ := sub_floor bounded
  rw [distance, atMost_iff_rank (ne_nan_of_finite rfl) (ofRat_ne_nan _ _)]
  constructor
  · intro reached
    by_contra less
    obtain ⟨small, value⟩ :=
      ofRat_of_representable (representable_fract bounded (not_le.mp less)) negative
    rw [rank_le_rank_iff rfl small, value, toRat_half] at reached
    exact less reached
  · intro reached
    rw [← ofRat_half]
    exact rank_ofRat_mono _ negative reached

/-! ## The nearest whole number -/

theorem floor_add_half (exact : Rat) :
    ⌊exact + 1 / 2⌋ = if 1 / 2 ≤ Int.fract exact then ⌊exact⌋ + 1 else ⌊exact⌋ := by
  have low := Int.fract_nonneg exact
  have high := Int.fract_lt_one exact
  rw [Int.fract] at low high ⊢
  rw [Int.floor_eq_iff]
  split
  · push_cast
    constructor <;> linarith
  · constructor <;> linarith

theorem representable_floor_add_one (bounded : number.isFinite = true)
    (apart : Int.fract number.toRat ≠ 0) : Representable (⌊number.toRat⌋ + 1 : Int) := by
  rcases exists_intCast_or_abs_lt bounded with ⟨whole, is⟩ | small
  · rw [is, Int.fract_intCast] at apart
    exact absurd rfl apart
  · have bits := natAbs_floor_le
      (show |number.toRat| < (4503599627370496 : Nat) by exact_mod_cast small)
    exact representable_intCast (by omega)

/-- Rounding half up takes a finite double to the nearest whole number. -/
theorem toRat_roundHalfUp (bounded : number.isFinite = true) :
    number.roundHalfUp.isFinite = true ∧
      number.roundHalfUp.toRat = ⌊number.toRat + 1 / 2⌋ := by
  obtain ⟨below, value⟩ := toRat_floor bounded
  rw [floor_add_half, roundHalfUp]
  by_cases reached : 1 / 2 ≤ Int.fract number.toRat
  · rw [if_pos reached, if_pos ((half_atMost_sub_floor bounded).mpr reached)]
    have apart : Int.fract number.toRat ≠ 0 := by
      intro none
      rw [none] at reached
      norm_num at reached
    have above := ofRat_of_representable (representable_floor_add_one bounded apart)
      (number.floor.isNegative && one.isNegative)
    rw [add_of_finite below rfl, value, toRat_one]
    exact_mod_cast above
  · rw [if_neg reached, if_neg (mt (half_atMost_sub_floor bounded).mp reached)]
    exact ⟨below, value⟩

theorem roundHalfUp_of_not_finite (unbounded : number.isFinite = false) :
    number.roundHalfUp = number := by
  match number with
  | nan => rfl
  | infinite negative => cases negative <;> rfl
  | finite .. => exact absurd unbounded nofun

/-- A whole number is rounded to itself. -/
theorem roundHalfUp_of_whole (bounded : number.isFinite = true) {whole : Int}
    (is : number.toRat = whole) : number.roundHalfUp = number := by
  have same : number.floor = number := by
    rw [floor_of_finite bounded, is, Int.floor_intCast, ← is]
    exact ofRat_toRat bounded
  have none : ¬ half.atMost (number.sub number.floor) = true := by
    rw [half_atMost_sub_floor bounded, is, Int.fract_intCast]
    norm_num
  rw [roundHalfUp, if_neg none, same]

theorem roundHalfUp_roundHalfUp (number : Double) :
    number.roundHalfUp.roundHalfUp = number.roundHalfUp := by
  cases bounded : number.isFinite with
  | true =>
      obtain ⟨whole, is⟩ := toRat_roundHalfUp bounded
      exact roundHalfUp_of_whole whole is
  | false => rw [roundHalfUp_of_not_finite bounded, roundHalfUp_of_not_finite bounded]

theorem rank_roundHalfUp (isNumber : number ≠ nan) :
    number.roundHalfUp.rank =
      WithBot.map (WithTop.map fun exact => (⌊exact + 1 / 2⌋ : Rat)) number.rank := by
  match number with
  | nan => exact absurd rfl isNumber
  | infinite negative => cases negative <;> rfl
  | finite negative significand exponent canonical =>
      have bounded : (finite negative significand exponent canonical).isFinite = true := rfl
      obtain ⟨rounded, value⟩ := toRat_roundHalfUp bounded
      rw [rank_finite rounded, value, rank_finite bounded]
      rfl

theorem roundHalfUp_eq_nan_iff : number.roundHalfUp = nan ↔ number = nan := by
  cases bounded : number.isFinite with
  | true =>
      obtain ⟨rounded, _⟩ := toRat_roundHalfUp bounded
      exact iff_of_false (ne_nan_of_finite rounded) (ne_nan_of_finite bounded)
  | false => rw [roundHalfUp_of_not_finite bounded]

theorem roundHalfUp_mono {left right : Double} (le : left.atMost right = true) :
    left.roundHalfUp.atMost right.roundHalfUp = true := by
  obtain ⟨leftNumber, rightNumber⟩ := ne_nan_of_atMost le
  have floors : Monotone fun exact : Rat => (⌊exact + 1 / 2⌋ : Rat) := by
    intro lower upper le
    exact Int.cast_le.mpr (Int.floor_mono (add_le_add_left le (1 / 2)))
  rw [atMost_iff_rank (mt roundHalfUp_eq_nan_iff.mp leftNumber)
    (mt roundHalfUp_eq_nan_iff.mp rightNumber), rank_roundHalfUp leftNumber,
    rank_roundHalfUp rightNumber]
  exact floors.withTop_map.withBot_map ((atMost_iff_rank leftNumber rightNumber).mp le)

/-! ## Calls -/

/-- Rounding half up is exact.  It takes a finite double to the whole number below its sum with one
half, and other doubles to themselves.  What is whole is rounded to itself, and the order is kept.
That is what calls of the builtin give. -/
theorem roundHalfUp_is_exact :
    (∀ number : Double, number.isFinite = true →
      number.roundHalfUp.isFinite = true ∧
        number.roundHalfUp.toRat = ⌊number.toRat + 1 / 2⌋) ∧
    (∀ number : Double, number.isFinite = false → number.roundHalfUp = number) ∧
    (∀ number : Double, number.roundHalfUp.roundHalfUp = number.roundHalfUp) ∧
    (∀ left right : Double, left.atMost right = true →
      left.roundHalfUp.atMost right.roundHalfUp = true) ∧
    ∀ (noise : Noise) (value : Value) (effects : Effects),
      Builtin.round.call noise [.value value] effects =
        .ok (.value (.number value.toNumber.roundHalfUp), effects) :=
  ⟨fun _ => toRat_roundHalfUp, fun _ => roundHalfUp_of_not_finite, roundHalfUp_roundHalfUp,
    fun _ _ => roundHalfUp_mono, fun _ _ _ => rfl⟩

/-- The double next above minus one half, whose distance from minus one is rounded to one half. -/
def aboveMinusHalf : Double :=
  finite true 9007199254740991 (-54) (by decide)

theorem roundHalfUp_is_exact_above_minus_half :
    aboveMinusHalf.isFinite = true ∧ (infinite true).atMost aboveMinusHalf = true ∧
      aboveMinusHalf.roundHalfUp.isFinite = true ∧ aboveMinusHalf.roundHalfUp.toRat = 0 ∧
      (infinite true).roundHalfUp = infinite true ∧
      (infinite true).roundHalfUp.atMost aboveMinusHalf.roundHalfUp = true := by
  obtain ⟨exact, unchanged, _, monotone, _⟩ := roundHalfUp_is_exact
  obtain ⟨rounded, value⟩ := exact aboveMinusHalf rfl
  have number : aboveMinusHalf.toRat = -9007199254740991 / 18014398509481984 := by
    norm_num [aboveMinusHalf, toRat]
  have floor : ⌊aboveMinusHalf.toRat + 1 / 2⌋ = 0 := by norm_num [number]
  rw [floor, Int.cast_zero] at value
  exact ⟨rfl, rfl, rounded, value, unchanged (infinite true) rfl, monotone _ _ rfl⟩

end LineCalc.Double
