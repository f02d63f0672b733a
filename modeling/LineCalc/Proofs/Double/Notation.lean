import LineCalc.Proofs.Double.Display

/-!
# Conventional notation

By convention a number is written with the digits of a shortest decimal: with an exponent if more
than 21 digits stand before the point or if six zeros or more follow it, and with zeros where needed
otherwise.  What is displayed is the conventional text except for some whole numbers below
`10 ^ 21`, all digits of which are displayed where the convention puts zeros.
-/

namespace LineCalc

namespace Decimal

/-- The conventional notation of a decimal.  The place of the point decides. -/
def conventional (decimal : Decimal) : List Char :=
  let digits := Nat.toDigits 10 decimal.digits
  if decimal.length ≤ decimal.point ∧ decimal.point ≤ 21 then
    digits ++ List.replicate (decimal.point - decimal.length).toNat '0'
  else if 0 < decimal.point ∧ decimal.point ≤ 21 then
    digits.take decimal.point.toNat ++ '.' :: digits.drop decimal.point.toNat
  else if -6 < decimal.point ∧ decimal.point ≤ 0 then
    '0' :: '.' :: (List.replicate (-decimal.point).toNat '0' ++ digits)
  else
    let exponent := decimal.point - 1
    let sign := if exponent < 0 then '-' else '+'
    digits.take 1 ++ (if decimal.length = 1 then [] else '.' :: digits.drop 1) ++
      'e' :: sign :: Nat.toDigits 10 exponent.natAbs

variable {decimal : Decimal} {number : Double}

theorem conventional_of_inside (least : -6 < decimal.point) (most : decimal.point ≤ 21) :
    decimal.conventional = decimal.positional := by
  have count : decimal.length = (Nat.toDigits 10 decimal.digits).length := rfl
  have place : decimal.point = decimal.exponent + decimal.length := rfl
  unfold conventional
  dsimp only
  split
  · next zeros =>
    rw [positional_of_nonneg (by omega)]
    congr 2
    omega
  · split
    · next digits inside =>
      obtain ⟨before, is⟩ := Int.eq_ofNat_of_zero_le inside.1.le
      rw [is, positional_of_inside (by omega) (by omega) (place.symm.trans is),
        Int.toNat_natCast]
    · next digits inside =>
      obtain ⟨zeros, is⟩ := Int.eq_ofNat_of_zero_le (show 0 ≤ -decimal.point by omega)
      have before : decimal.exponent + decimal.length = -(zeros : Int) := by omega
      rw [if_pos (by omega), positional_of_outside (by omega) before, is, Int.toNat_natCast]

theorem conventional_of_outside (outside : decimal.point ≤ -6 ∨ 21 < decimal.point) :
    decimal.conventional = decimal.scientific := by
  have some := decimal.length_pos
  have count : decimal.length = (Nat.toDigits 10 decimal.digits).length := rfl
  have place : decimal.point = decimal.exponent + decimal.length := rfl
  unfold conventional scientific
  dsimp only
  rw [if_neg (by omega), if_neg (by omega), if_neg (by omega)]
  cases written : Nat.toDigits 10 decimal.digits with
  | nil => exact absurd written Nat.toDigits_ne_nil
  | cons first others =>
      rw [written, List.length_cons] at count
      have exponent : decimal.point - 1 = decimal.exponent + others.length := by omega
      have single : decimal.length = 1 ↔ others = [] := by
        rw [count, Nat.add_eq_right, List.length_eq_zero_iff]
      rw [exponent]
      simp [single]

/-! ## Where the point is -/

section Edge

variable {place : Int} {edge : Double}

theorem ReadsAs.rounded_power (positive : 0 < edge.toRat)
    (reads : (⟨1, place⟩ : Decimal).ReadsAs edge) : rounded (10 ^ place) = edge.toRat := by
  have power : (⟨1, place⟩ : Decimal).toRat = 10 ^ place := by simp [toRat]
  rw [← power]
  exact reads.rounded_eq positive

/-- A double reaches the double of a power of ten if the point is behind the place that the power
counts. -/
theorem ReadsAs.le_of_lt_point (positive : 0 < number.toRat) (reads : decimal.ReadsAs number)
    (edgePositive : 0 < edge.toRat) (edgeReads : (⟨1, place⟩ : Decimal).ReadsAs edge)
    (behind : place < decimal.point) : edge.toRat ≤ number.toRat := by
  have above : 10 ^ place ≤ decimal.toRat :=
    (zpow_le_zpow_right₀ (by norm_num) (by omega)).trans (le_toRat (reads.digits_ne_zero positive))
  have within := rounded_mono (by positivity) above
  rwa [reads.rounded_eq positive, edgeReads.rounded_power edgePositive] at within

/-- Only then, if the decimal is on the coarsest grid. -/
theorem Coarsest.le_iff_lt_point (positive : 0 < number.toRat) (coarsest : decimal.Coarsest number)
    (edgePositive : 0 < edge.toRat) (edgeReads : (⟨1, place⟩ : Decimal).ReadsAs edge) :
    edge.toRat ≤ number.toRat ↔ place < decimal.point := by
  refine ⟨fun reaches => ?_, coarsest.reads.le_of_lt_point positive edgePositive edgeReads⟩
  by_contra before
  have below : decimal.toRat ≤ 10 ^ place :=
    decimal.toRat_lt.le.trans (zpow_le_zpow_right₀ (by norm_num) (by omega))
  have within := rounded_mono (coarsest.reads.toRat_pos positive) below
  rw [coarsest.reads.rounded_eq positive, edgeReads.rounded_power edgePositive] at within
  -- then the power of ten itself is read as the double, and lies on too coarse a grid
  have reads : (⟨1, place⟩ : Decimal).ReadsAs number := by
    refine (readsAs_iff positive).mpr ⟨Nat.one_ne_zero, ?_⟩
    rw [edgeReads.rounded_eq edgePositive]
    exact le_antisymm reaches within
  have coarse : place ≤ decimal.exponent := coarsest.exponent_le _ reads
  have some := decimal.length_pos
  unfold point at before
  omega

end Edge

theorem readsAs_leastPositional : (⟨1, -6⟩ : Decimal).ReadsAs Double.leastPositional :=
  rfl

theorem readsAs_positionalLimit : (⟨1, 21⟩ : Decimal).ReadsAs Double.positionalLimit :=
  rfl

theorem Coarsest.plain_iff (positive : 0 < number.toRat) (coarsest : decimal.Coarsest number) :
    number.Plain ↔ -6 < decimal.point ∧ decimal.point ≤ 21 := by
  have least := coarsest.le_iff_lt_point positive Double.leastPositional_pos
    readsAs_leastPositional
  have limit := (coarsest.le_iff_lt_point positive Double.positionalLimit_pos
    readsAs_positionalLimit).not
  rw [not_le, not_lt] at limit
  rw [Double.Plain, Double.atMost_iff Double.leastPositional_pos positive, least,
    Double.less_iff positive Double.positionalLimit_pos, limit]

/-! ## Whole numbers -/

theorem toDigits_mul_pow {digits : Nat} (positive : 0 < digits) (zeros : Nat) :
    Nat.toDigits 10 (digits * 10 ^ zeros) =
      Nat.toDigits 10 digits ++ List.replicate zeros '0' := by
  induction zeros with
  | zero => simp
  | succ zeros ih =>
      have joined := Nat.toDigits_append_toDigits (b := 10) (n := digits * 10 ^ zeros) (d := 0)
        (by decide) (by positivity) (by decide)
      rw [Nat.add_zero, ih, Nat.toDigits_zero, List.append_assoc, ← List.replicate_succ'] at joined
      rw [joined, pow_succ']
      congr 1
      ring

/-- A shortest decimal has no zero at its end. -/
theorem IsShortest.digits_mod_ten (positive : 0 < number.toRat)
    (isShortest : decimal.IsShortest number) : decimal.digits % 10 ≠ 0 := by
  intro zero
  obtain ⟨fewer, ten⟩ := Nat.dvd_of_mod_eq_zero zero
  let other : Decimal := ⟨fewer, decimal.exponent + 1⟩
  have same : other.toRat = decimal.toRat := by
    rw [toRat, toRat, ten, zpow_add_one₀ (by norm_num)]
    push_cast
    ring
  have reads : other.ReadsAs number := (toDouble_congr false same).trans isShortest.reads
  have nonzero := isShortest.reads.digits_ne_zero positive
  have longer : 1 < decimal.length := by
    by_contra single
    have digit := (length_le_iff Nat.one_pos).mp (not_lt.mp single)
    omega
  have shorter : other.length ≤ decimal.length - 1 := by
    rw [length_le_iff (by omega)]
    have bound := decimal.digits_lt
    obtain ⟨count, is⟩ := Nat.exists_eq_add_of_lt longer
    rw [is, Nat.add_sub_cancel]
    rw [is, ten, pow_succ'] at bound
    exact Nat.lt_of_mul_lt_mul_left bound
  have least := isShortest.length_le other reads
  omega

/-- If a shortest decimal is whole, all of its places are before the point. -/
theorem IsShortest.exponent_nonneg {whole : Nat} (positive : 0 < number.toRat)
    (isShortest : decimal.IsShortest number) (exact : decimal.toRat = whole) :
    0 ≤ decimal.exponent := by
  by_contra negative
  obtain ⟨places, is⟩ := Int.exists_eq_neg_ofNat (not_le.mp negative).le
  have scaled : decimal.digits = whole * 10 ^ places := by
    rw [toRat, is, zpow_neg, zpow_natCast, ← div_eq_mul_inv, div_eq_iff (by positivity)] at exact
    exact_mod_cast exact
  refine isShortest.digits_mod_ten positive (Nat.mod_eq_zero_of_dvd ?_)
  rw [scaled]
  exact Dvd.dvd.mul_left (dvd_pow_self 10 (by omega)) whole

/-- A shortest decimal that is whole is conventionally written with the digits of that number. -/
theorem IsShortest.conventional_of_toRat_eq {whole : Nat} (positive : 0 < number.toRat)
    (isShortest : decimal.IsShortest number) (exact : decimal.toRat = whole)
    (small : decimal.point ≤ 21) : decimal.conventional = Nat.toDigits 10 whole := by
  have nonneg := isShortest.exponent_nonneg positive exact
  have nonzero := Nat.pos_of_ne_zero (isShortest.reads.digits_ne_zero positive)
  obtain ⟨zeros, is⟩ := Int.eq_ofNat_of_zero_le nonneg
  have scaled : whole = decimal.digits * 10 ^ zeros :=
    Nat.cast_injective (exact.symm.trans (toRat_of_exponent is))
  have behind : -6 < decimal.point := by
    unfold point
    omega
  rw [conventional_of_inside behind small, positional_of_nonneg nonneg, is, Int.toNat_natCast,
    scaled, toDigits_mul_pow nonzero]

/-- The convention writes digits only if they all stand before the point. -/
theorem length_le_of_conventional
    (digits : ∀ character ∈ decimal.conventional, character.isDigit = true) :
    decimal.length ≤ decimal.point ∧ decimal.point ≤ 21 := by
  by_contra behind
  have mark : '.' ∈ decimal.conventional ∨ 'e' ∈ decimal.conventional := by
    unfold conventional
    dsimp only
    rw [if_neg behind]
    split
    · simp
    · split <;> simp
  rcases mark with point | letter
  · exact absurd (digits '.' point) (by decide)
  · exact absurd (digits 'e' letter) (by decide)

/-- If they do, they write the decimal. -/
theorem toRat_of_conventional {whole : Nat}
    (written : decimal.conventional = Nat.toDigits 10 whole) : decimal.toRat = whole := by
  have before := length_le_of_conventional (written ▸ isDigit_toDigits whole)
  have nonneg : 0 ≤ decimal.exponent := by
    unfold point at before
    omega
  obtain ⟨zeros, is⟩ := Int.eq_ofNat_of_zero_le nonneg
  have inside : -6 < decimal.point := by
    unfold point
    omega
  rw [conventional_of_inside inside before.2, positional_of_nonneg nonneg] at written
  have read := congrArg readWhole written
  rw [readWhole_append_zeros, readWhole_toDigits, readWhole_toDigits, is, Int.toNat_natCast] at read
  rw [toRat_of_exponent is, ← read, Nat.pow_eq]

end Decimal

namespace Double

variable {number : Double} {text : String}

/-- The text is the conventional one of the number.  Special values have names, both zeros are
written alike, and all other numbers are a shortest decimal with a sign. -/
def Conventional (number : Double) (text : String) : Prop :=
  match number with
  | nan => text = "NaN"
  | infinite negative => text = if negative then "-Infinity" else "Infinity"
  | finite negative significand .. =>
      if significand = 0 then text = "0"
      else
        ∃ decimal : Decimal, decimal.IsShortest number.abs ∧
          text = String.ofList ((if negative then ['-'] else []) ++ decimal.conventional)

theorem conventional_of_pos (positive : 0 < number.toRat) :
    number.Conventional text ↔
      ∃ decimal : Decimal, decimal.IsShortest number ∧
        text = String.ofList decimal.conventional := by
  obtain ⟨_, _, _, nonzero, rfl⟩ := exists_of_toRat_pos positive
  exact iff_of_eq (if_neg nonzero.ne')

theorem conventional_neg (positive : 0 < number.toRat) :
    number.neg.Conventional text ↔
      ∃ decimal : Decimal, decimal.IsShortest number ∧
        text = String.ofList ('-' :: decimal.conventional) := by
  obtain ⟨_, _, _, nonzero, rfl⟩ := exists_of_toRat_pos positive
  exact iff_of_eq (if_neg nonzero.ne')

/-- Can the number be written with all its digits, yet no more than are needed? -/
def Exact (number : Double) : Prop :=
  ∃ decimal : Decimal, decimal.IsShortest number ∧ decimal.toRat = number.toRat

/-- Of the shortest decimals, it is the one that the search finds that is the number. -/
theorem exact_iff (positive : 0 < number.toRat) :
    number.Exact ↔ (Decimal.shortest number).toRat = number.toRat := by
  have found := Decimal.isShortest_shortest positive
  refine ⟨fun ⟨decimal, isShortest, exact⟩ => ?_, fun exact => ⟨_, found, exact⟩⟩
  have same : decimal.length = (Decimal.shortest number).length :=
    le_antisymm (isShortest.length_le _ found.reads) (found.length_le _ isShortest.reads)
  have near := found.closest decimal isShortest.reads same
  rw [exact, sub_self, abs_zero] at near
  exact sub_eq_zero.mp (abs_nonpos_iff.mp near)

theorem displayMagnitude_of_whole (positive : 0 < number.toRat) (plain : number.Plain)
    (whole : number.isWhole = true) :
    number.displayMagnitude = Nat.toDigits 10 number.toRat.num.natAbs := by
  rw [displayMagnitude_of_plain positive plain, plainDecimal, if_pos whole,
    Decimal.positional_of_nonneg (le_refl 0)]
  simp

/-- Unless all digits are displayed, those of a shortest decimal are. -/
theorem displayMagnitude_of_not_whole (positive : 0 < number.toRat)
    (shortened : ¬ (number.isWhole = true ∧ number.Plain)) :
    number.displayMagnitude = (Decimal.shortest number).conventional := by
  have range := (Decimal.coarsest_shortest positive).plain_iff positive
  by_cases plain : number.Plain
  · obtain ⟨least, most⟩ := range.mp plain
    rw [displayMagnitude_of_plain positive plain, plainDecimal,
      if_neg fun whole => shortened ⟨whole, plain⟩, Decimal.conventional_of_inside least most]
  · rw [displayMagnitude_of_not_plain positive plain, Decimal.conventional_of_outside]
    rw [range] at plain
    omega

theorem conventional_displayMagnitude_iff (positive : 0 < number.toRat) :
    (∃ decimal : Decimal, decimal.IsShortest number ∧
        number.displayMagnitude = decimal.conventional) ↔
      (number.isWhole = true → number.Plain → number.Exact) := by
  by_cases all : number.isWhole = true ∧ number.Plain
  · obtain ⟨whole, plain⟩ := all
    have value := natAbs_num_of_isWhole positive whole
    rw [displayMagnitude_of_whole positive plain whole]
    constructor
    · rintro ⟨decimal, isShortest, written⟩ _ _
      exact ⟨decimal, isShortest, (Decimal.toRat_of_conventional written.symm).trans value⟩
    · intro exact
      obtain ⟨decimal, isShortest, same⟩ := exact whole plain
      have small : decimal.point ≤ 21 := by
        by_contra behind
        have reaches := isShortest.reads.le_of_lt_point positive positionalLimit_pos
          Decimal.readsAs_positionalLimit (not_le.mp behind)
        exact absurd ((less_iff positive positionalLimit_pos).mp plain.2) reaches.not_gt
      exact ⟨decimal, isShortest,
        (isShortest.conventional_of_toRat_eq positive (same.trans value.symm) small).symm⟩
  · refine iff_of_true ⟨_, Decimal.isShortest_shortest positive, ?_⟩ ?_
    · exact displayMagnitude_of_not_whole positive all
    · exact fun whole plain => absurd ⟨whole, plain⟩ all

/-- Whole numbers of 53 bits are shortest decimals themselves. -/
theorem exact_of_lt (positive : 0 < number.toRat) (whole : number.isWhole = true)
    (small : number.toRat < 2 ^ (53 : Int)) : number.Exact := by
  have coarsest := Decimal.coarsest_shortest positive
  have value := natAbs_num_of_isWhole positive whole
  have reads : (⟨number.toRat.num.natAbs, 0⟩ : Decimal).ReadsAs number := by
    refine Decimal.readsAs_of_toRat_eq positive ?_
    rw [Decimal.toRat, zpow_zero, mul_one, value]
  obtain ⟨zeros, is⟩ := Int.eq_ofNat_of_zero_le (coarsest.exponent_le _ reads)
  have nonzero := coarsest.reads.toRat_pos positive
  have rounds := coarsest.reads.rounded_eq positive
  refine ⟨_, coarsest.isShortest positive, ?_⟩
  rw [Decimal.toRat_of_exponent is] at nonzero rounds ⊢
  exact (rounded_natCast (Nat.cast_pos.mp nonzero) (rounds.trans_lt small)).symm.trans rounds

theorem isWhole_neg (number : Double) : number.neg.isWhole = number.isWhole := by
  have finite : number.neg.isFinite = number.isFinite := by cases number <;> rfl
  rw [isWhole, isWhole, toRat_neg, Rat.neg_den, finite]

theorem isWhole_abs (number : Double) : number.abs.isWhole = number.isWhole := by
  generalize is : number.abs = size
  rcases eq_or_eq_neg is with rfl | rfl
  · rfl
  · exact (isWhole_neg size).symm

theorem conventional_display_iff (number : Double) :
    number.Conventional number.display ↔
      (number.isWhole = true → number.abs.Plain → number.abs.Exact) := by
  rw [← isWhole_abs]
  cases number.kind with
  | nan => exact iff_of_true rfl (fun whole => absurd whole nofun)
  | infinite negative => exact iff_of_true rfl (fun whole => absurd whole nofun)
  | zero negative =>
      refine iff_of_true rfl fun _ plain => absurd plain.toRat_pos ?_
      simp [zero, abs, toRat]
  | positive positive =>
      rw [display_of_pos positive, conventional_of_pos positive, abs_of_pos positive,
        ← conventional_displayMagnitude_iff positive]
      simp only [String.ofList_inj]
  | @negative number positive =>
      rw [display_neg positive, conventional_neg positive, abs_neg positive,
        ← conventional_displayMagnitude_iff positive]
      simp only [String.ofList_inj, List.cons.injEq, true_and]

theorem isNegative_of_pos (positive : 0 < number.toRat) :
    number.isNegative = false ∧ number.neg.isNegative = true := by
  obtain ⟨_, _, _, _, rfl⟩ := exists_of_toRat_pos positive
  exact ⟨rfl, rfl⟩

/-- Whole numbers below the limit are displayed with all digits that they have. -/
theorem display_of_whole (whole : number.isWhole = true) (plain : number.abs.Plain) :
    number.display = String.ofList ((if number.isNegative then ['-'] else []) ++
      Nat.toDigits 10 number.toRat.num.natAbs) := by
  generalize is : number.abs = size at plain
  obtain ⟨plus, minus⟩ := isNegative_of_pos plain.toRat_pos
  rcases eq_or_eq_neg is with rfl | rfl
  · rw [display_of_pos plain.toRat_pos, displayMagnitude_of_whole plain.toRat_pos plain whole, plus]
    rfl
  · rw [isWhole_neg] at whole
    rw [display_neg plain.toRat_pos, displayMagnitude_of_whole plain.toRat_pos plain whole, minus,
      toRat_neg, Rat.neg_num, Int.natAbs_neg]
    rfl

/-- A number is displayed conventionally exactly if it is not whole, is not of the size that is
displayed without an exponent, or has a shortest decimal that is the number itself.  Of the whole
numbers that are displayed without an exponent all digits are displayed; for those of 53 bits this
is the convention. -/
theorem conventional_display (number : Double) :
    (number.Conventional number.display ↔
      (number.isWhole = true → number.abs.Plain → number.abs.Exact)) ∧
    (number.isWhole = true → number.abs.Plain →
      number.display = String.ofList ((if number.isNegative then ['-'] else []) ++
        Nat.toDigits 10 number.toRat.num.natAbs)) ∧
    (number.abs.toRat < 2 ^ (53 : Int) → number.Conventional number.display) := by
  refine ⟨conventional_display_iff number, display_of_whole, fun small => ?_⟩
  rw [conventional_display_iff]
  intro whole plain
  exact exact_of_lt plain.toRat_pos ((isWhole_abs number).trans whole) small

/-- Of larger whole numbers not every one is a double. -/
theorem conventional_display_bits :
    let number : Double := .finite true 9007199254740991 0 (by decide)
    number.abs.toRat < 2 ^ (53 : Int) ∧ number.Conventional "-9007199254740991" := by
  intro number
  have small : number.abs.toRat < 2 ^ (53 : Int) := by decide +kernel
  have displayed : number.display = "-9007199254740991" := by decide +kernel
  exact ⟨small, displayed ▸ (conventional_display number).2.2 small⟩

/-- Here the convention has zeros for the last four digits, which are not needed to tell the number
from other doubles, and yet are displayed. -/
theorem exists_unconventional_display :
    let number : Double := .finite false 7535204407491802 14 (by decide)
    number.display = "123456789012345683968" ∧ ¬ number.Conventional number.display ∧
      number.Conventional "123456789012345680000" := by
  intro number
  have positive : 0 < number.toRat := by decide +kernel
  have found : Decimal.shortest number = ⟨12345678901234568, 4⟩ := by decide +kernel
  have isShortest := found ▸ Decimal.isShortest_shortest positive
  have whole : number.isWhole = true := by decide +kernel
  have plain : number.abs.Plain := ⟨by decide +kernel, by decide +kernel⟩
  refine ⟨by decide +kernel, ?_, ?_⟩
  · rw [conventional_display_iff]
    intro exact
    have same := (exact_iff positive).mp (exact whole plain)
    rw [found] at same
    exact absurd same (by decide +kernel)
  · rw [conventional_of_pos positive]
    exact ⟨_, isShortest, by decide +kernel⟩

end Double

end LineCalc
