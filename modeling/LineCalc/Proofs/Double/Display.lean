import LineCalc.Proofs.Decimal.Reading
import LineCalc.Proofs.Decimal.Shortest

/-!
# Displayed doubles

Whatever notation a double is displayed in, the digits that are written stand for a decimal that is
read as the double.  So the text of a double is read as the double, except that the sign of a zero
is not displayed.
-/

namespace LineCalc

/-! ## Texts without blanks -/

theorem Text.trim_of_visible {text : List Char}
    (visible : ∀ character ∈ text, isBlank character = false) : trim text = text := by
  have kept {text : List Char} (visible : ∀ character ∈ text, isBlank character = false) :
      dropBlanks text = text := by
    cases text with
    | nil => rfl
    | cons first others =>
        exact List.dropWhile_cons_of_neg (by simp [visible first List.mem_cons_self])
  have reversed : ∀ character ∈ text.reverse, isBlank character = false :=
    fun character member => visible character (List.mem_reverse.mp member)
  rw [trim, kept visible, kept reversed, List.reverse_reverse]

theorem Numeric.visible {text : List Char} (numeric : Numeric text) :
    ∀ character ∈ text, Text.isBlank character = false := by
  intro character member
  rcases numeric character member with digit | mark
  · exact isBlank_of_isDigit digit
  · have visible : ∀ mark ∈ numberMarks, Text.isBlank mark = false := forall_mem_of_all (by decide)
    exact visible character mark

namespace Decimal

variable {text : List Char} {decimal : Decimal} {number : Double}

/-- A decimal has no sign in front. -/
theorem readSign_of_ofText? (read : ofText? text = some decimal) :
    readSign text = (false, text) := by
  unfold readSign
  split
  · exact absurd read (by simp [ofText?, readDigits?])
  · exact absurd read (by simp [ofText?, readDigits?])
  · rfl

theorem ne_infinity_of_ofText? (read : ofText? text = some decimal) : text ≠ "Infinity".toList := by
  have refused : ofText? "Infinity".toList = none := by decide
  rintro rfl
  exact absurd (refused.symm.trans read) nofun

/-- The exponent that is written for a double is within the bound for exponents. -/
theorem ReadsAs.natAbs_point_lt (positive : 0 < number.toRat) (reads : decimal.ReadsAs number) :
    (decimal.point - 1).natAbs < 65536 := by
  have rounds := reads.rounded_eq positive
  have some := reads.toRat_pos positive
  have low := le_of_rounded_pos some (rounds.symm ▸ positive)
  have high : decimal.toRat < 2 ^ (1024 : Int) := by
    by_contra huge
    have beyond := le_rounded (by decide) (not_lt.mp huge)
    rw [rounds] at beyond
    exact absurd (Double.toRat_lt_limit positive) beyond.not_gt
  have above : decimal.point < 400 := by
    by_contra far
    have power := (two_zpow_le_ten_zpow (show 0 ≤ decimal.point - 1 by omega)).trans
      (le_toRat (reads.digits_ne_zero positive))
    have exponents := (zpow_lt_zpow_iff_right₀ (one_lt_two (α := Rat))).mp (power.trans_lt high)
    omega
  have below : -400 < decimal.point := by
    by_contra far
    have power := decimal.toRat_lt.trans_le (ten_zpow_le_two_zpow (by omega))
    have exponents := (zpow_lt_zpow_iff_right₀ (one_lt_two (α := Rat))).mp (low.trans_lt power)
    omega
  omega

/-- The notation with an exponent is read as the decimal, if that is read as a double. -/
theorem ReadsAs.ofText?_scientific (positive : 0 < number.toRat) (reads : decimal.ReadsAs number) :
    ofText? decimal.scientific = some decimal := by
  have near := reads.natAbs_point_lt positive
  obtain ⟨first, others, written⟩ := List.exists_cons_of_ne_nil
    (show Nat.toDigits 10 decimal.digits ≠ [] from Nat.toDigits_ne_nil)
  refine Decimal.ofText?_scientific written ?_
  have count : decimal.length = others.length + 1 := by rw [length, written, List.length_cons]
  rw [point, count] at near
  push_cast at near
  rwa [← add_assoc, add_sub_cancel_right] at near

end Decimal

namespace Double

variable {negative : Bool} {text magnitude : List Char} {decimal : Decimal} {number : Double}

/-- A text that is not blank is an infinity or what is read as a decimal behind the sign. -/
theorem ofText_eq {text : String} (nonempty : Text.trim text.toList ≠ [])
    (sign : Decimal.readSign (Text.trim text.toList) = (negative, magnitude)) :
    ofText text =
      if magnitude = "Infinity".toList then infinite negative
      else ((Decimal.ofText? magnitude).map (Decimal.toDouble negative)).getD nan := by
  unfold ofText
  split
  · next empty => exact absurd empty nonempty
  · simp only [sign]
    cases Decimal.ofText? magnitude <;> rfl

theorem ofText_of_readSign (numeric : Numeric text)
    (sign : Decimal.readSign text = (negative, magnitude))
    (read : Decimal.ofText? magnitude = some decimal) :
    ofText (String.ofList text) = decimal.toDouble negative := by
  have nonempty : text ≠ [] := by
    rintro rfl
    obtain rfl : [] = magnitude := congrArg Prod.snd sign
    exact absurd read nofun
  have trimmed : Text.trim (String.ofList text).toList = text := by
    rw [String.toList_ofList]
    exact Text.trim_of_visible numeric.visible
  rw [← trimmed] at nonempty sign
  rw [ofText_eq nonempty sign, if_neg (Decimal.ne_infinity_of_ofText? read), read]
  rfl

/-! ## Order of positive doubles -/

theorem less_iff {left right : Double} (leftPositive : 0 < left.toRat)
    (rightPositive : 0 < right.toRat) : left.less right = true ↔ left.toRat < right.toRat := by
  obtain ⟨_, _, _, _, rfl⟩ := exists_of_toRat_pos leftPositive
  obtain ⟨_, _, _, _, rfl⟩ := exists_of_toRat_pos rightPositive
  exact decide_eq_true_iff

theorem atMost_iff {left right : Double} (leftPositive : 0 < left.toRat)
    (rightPositive : 0 < right.toRat) : left.atMost right = true ↔ left.toRat ≤ right.toRat := by
  obtain ⟨_, _, _, _, rfl⟩ := exists_of_toRat_pos leftPositive
  obtain ⟨_, _, _, _, rfl⟩ := exists_of_toRat_pos rightPositive
  exact decide_eq_true_iff

theorem leastPositional_pos : 0 < leastPositional.toRat := by
  decide +kernel

theorem positionalLimit_pos : 0 < positionalLimit.toRat := by
  decide +kernel

/-! ## Texts of positive doubles -/

/-- Is the number of the size that is displayed without an exponent? -/
def Plain (number : Double) : Prop :=
  leastPositional.atMost number = true ∧ number.less positionalLimit = true

theorem Plain.toRat_pos (plain : number.Plain) : 0 < number.toRat := by
  obtain ⟨least, limit⟩ := plain
  have positive := leastPositional_pos
  obtain ⟨_, _, _, _, leastIs⟩ := exists_of_toRat_pos leastPositional_pos
  obtain ⟨_, _, _, _, limitIs⟩ := exists_of_toRat_pos positionalLimit_pos
  rw [leastIs] at least positive
  rw [limitIs] at limit
  match number with
  | nan => exact absurd least nofun
  | infinite false => exact absurd limit nofun
  | infinite true => exact absurd least nofun
  | finite .. => exact positive.trans_le (of_decide_eq_true least)

/-- The decimal whose digits are displayed where there is no exponent. -/
def plainDecimal (number : Double) : Decimal :=
  if number.isWhole then ⟨number.toRat.num.natAbs, 0⟩ else Decimal.shortest number

theorem displayMagnitude_of_plain (positive : 0 < number.toRat) (plain : number.Plain) :
    number.displayMagnitude = number.plainDecimal.positional := by
  have least := (atMost_iff leastPositional_pos positive).mp plain.1
  have reached : ¬ number.less leastPositional = true :=
    (less_iff positive leastPositional_pos).not.mpr least.not_gt
  rw [displayMagnitude, if_neg (by simp [reached, plain.2]), plainDecimal]
  split
  · rw [Decimal.positional_of_nonneg (le_refl 0)]
    simp
  · rfl

theorem displayMagnitude_of_not_plain (positive : 0 < number.toRat) (exponent : ¬ number.Plain) :
    number.displayMagnitude = (Decimal.shortest number).scientific := by
  have outside : (number.less leastPositional || !number.less positionalLimit) = true := by
    by_contra inside
    rw [Bool.or_eq_true, not_or, less_iff positive leastPositional_pos] at inside
    refine exponent ⟨(atMost_iff leastPositional_pos positive).mpr (not_lt.mp inside.1), ?_⟩
    simpa using inside.2
  exact if_pos outside

theorem natAbs_num_of_isWhole (positive : 0 < number.toRat) (whole : number.isWhole = true) :
    (number.toRat.num.natAbs : Rat) = number.toRat := by
  have den : number.toRat.den = 1 := by
    unfold isWhole at whole
    simpa using (Bool.and_eq_true_iff.mp whole).2
  rw [← mul_den_eq_natAbs positive.le, den, Nat.cast_one, mul_one]

theorem readsAs_plainDecimal (positive : 0 < number.toRat) :
    number.plainDecimal.ReadsAs number := by
  unfold plainDecimal
  split
  · next whole =>
    refine Decimal.readsAs_of_toRat_eq positive ?_
    rw [Decimal.toRat, zpow_zero, mul_one]
    exact natAbs_num_of_isWhole positive whole
  · exact (Decimal.coarsest_shortest positive).reads

/-- Without an exponent, a number of the language is displayed, which stands for the double. -/
theorem exists_displayMagnitude_eq (positive : 0 < number.toRat) (plain : number.Plain) :
    ∃ (whole : Run Char.isDigit) (places : Option (Run Char.isDigit)),
      number.displayMagnitude = (Token.number whole places).characters ∧
        (Decimal.ofDigits whole.characters (places.elim [] Run.characters)).ReadsAs number := by
  obtain ⟨whole, places, written, digits⟩ := number.plainDecimal.exists_positional
  rw [displayMagnitude_of_plain positive plain]
  refine ⟨whole, places, written, ?_⟩
  rw [digits, Decimal.ReadsAs, Decimal.toDouble_congr false (Decimal.toRat_spread _)]
  exact readsAs_plainDecimal positive

theorem exists_ofText?_displayMagnitude (positive : 0 < number.toRat) :
    ∃ decimal, Decimal.ofText? number.displayMagnitude = some decimal ∧ decimal.ReadsAs number := by
  by_cases plain : number.Plain
  · obtain ⟨whole, places, written, reads⟩ := exists_displayMagnitude_eq positive plain
    exact ⟨_, written ▸ Decimal.ofText?_number whole places, reads⟩
  · have reads := (Decimal.coarsest_shortest positive).reads
    rw [displayMagnitude_of_not_plain positive plain]
    exact ⟨_, reads.ofText?_scientific positive, reads⟩

/-! ## Texts of all doubles -/

theorem finite_zero {exponent : Int} (canonical : Canonical 0 exponent) :
    finite negative 0 exponent canonical = zero negative := by
  obtain ⟨_, _, _, large | rfl⟩ := canonical
  · exact absurd large (by decide)
  · rfl

/-- A double is a special value, a zero, or a positive number with a sign. -/
inductive Kind : Double → Prop
  | nan : Kind nan
  | infinite (negative : Bool) : Kind (infinite negative)
  | zero (negative : Bool) : Kind (zero negative)
  | positive {number : Double} : 0 < number.toRat → Kind number
  | negative {number : Double} : 0 < number.toRat → Kind number.neg

theorem kind (number : Double) : number.Kind := by
  match number with
  | nan => exact .nan
  | infinite negative => exact .infinite negative
  | finite negative significand exponent canonical =>
      rcases Nat.eq_zero_or_pos significand with rfl | nonzero
      · rw [finite_zero]
        exact .zero negative
      · have positive : 0 < (finite false significand exponent canonical).toRat := by
          unfold toRat
          positivity
        cases negative with
        | false => exact .positive positive
        | true => exact .negative positive

theorem display_of_pos (positive : 0 < number.toRat) :
    number.display = String.ofList number.displayMagnitude := by
  obtain ⟨_, _, _, nonzero, rfl⟩ := exists_of_toRat_pos positive
  exact if_neg nonzero.ne'

theorem display_neg (positive : 0 < number.toRat) :
    number.neg.display = String.ofList ('-' :: number.displayMagnitude) := by
  obtain ⟨_, _, _, nonzero, rfl⟩ := exists_of_toRat_pos positive
  exact if_neg nonzero.ne'

theorem ne_zero (positive : 0 < number.toRat) (negative : Bool) : number ≠ zero negative := by
  obtain ⟨_, _, _, nonzero, rfl⟩ := exists_of_toRat_pos positive
  intro same
  injection same with _ none
  exact nonzero.ne' none

theorem neg_ne_zero (positive : 0 < number.toRat) (negative : Bool) :
    number.neg ≠ zero negative := by
  obtain ⟨_, _, _, nonzero, rfl⟩ := exists_of_toRat_pos positive
  intro same
  injection same with _ none
  exact nonzero.ne' none

theorem abs_of_pos (positive : 0 < number.toRat) : number.abs = number := by
  obtain ⟨_, _, _, _, rfl⟩ := exists_of_toRat_pos positive
  rfl

theorem abs_neg (positive : 0 < number.toRat) : number.neg.abs = number := by
  obtain ⟨_, _, _, _, rfl⟩ := exists_of_toRat_pos positive
  rfl

theorem eq_or_eq_neg {size : Double} (is : number.abs = size) : number = size ∨ number = size.neg := by
  subst is
  match number with
  | nan | infinite false | finite false _ _ _ => exact .inl rfl
  | infinite true | finite true _ _ _ => exact .inr rfl

theorem toRat_neg (number : Double) : number.neg.toRat = -number.toRat := by
  match number with
  | nan | infinite _ => rfl
  | finite true _ _ _ => exact (neg_neg _).symm
  | finite false _ _ _ => rfl

/-- A double is read from its text, but the sign of a zero is not. -/
theorem ofText_display_eq (number : Double) :
    ofText number.display = if number = zero true then zero false else number := by
  cases number.kind with
  | nan => decide +kernel
  | infinite negative => cases negative <;> decide +kernel
  | zero negative => cases negative <;> decide +kernel
  | positive positive =>
      obtain ⟨decimal, read, reads⟩ := exists_ofText?_displayMagnitude positive
      have sign := Decimal.readSign_of_ofText? read
      rw [display_of_pos positive, if_neg (ne_zero positive true),
        ofText_of_readSign number.numeric_displayMagnitude sign read, reads]
  | @negative number positive =>
      obtain ⟨decimal, read, reads⟩ := exists_ofText?_displayMagnitude positive
      have minus : Numeric ['-'] := by decide
      have signed : Numeric ('-' :: number.displayMagnitude) :=
        minus.append number.numeric_displayMagnitude
      rw [display_neg positive, if_neg (neg_ne_zero positive true),
        ofText_of_readSign signed rfl read]
      exact (decimal.neg_toDouble false).symm.trans (congrArg neg reads)

end Double

end LineCalc
