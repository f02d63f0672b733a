import LineCalc.Proofs.Decimal.Rounding

/-!
# Decimals out of range

A decimal with few digits whose exponent reaches the bound for exponents is an infinity or a zero.
So what is read of an exponent, of which the digits behind the bound are not heeded, has the same
double as what is written.
-/

namespace LineCalc

namespace Decimal

theorem toDouble_ne_nan (negative : Bool) (decimal : Decimal) :
    decimal.toDouble negative ≠ Double.nan := by
  intro same
  unfold toDouble Double.ofMagnitude Double.ofScaled at same
  dsimp only at same
  split_ifs at same
  all_goals cases same

section OutOfRange

variable {decimal : Decimal}

theorem toDouble_of_huge (negative : Bool) (nonzero : decimal.digits ≠ 0)
    (huge : 400 < decimal.exponent) : decimal.toDouble negative = Double.infinite negative := by
  rw [toDouble, if_neg nonzero, if_pos huge]

theorem toDouble_of_tiny (negative : Bool) {count : Nat} (nonzero : decimal.digits ≠ 0)
    (few : decimal.digits < 10 ^ count) (tiny : count + decimal.exponent ≤ -400) :
    decimal.toDouble negative = Double.zero negative := by
  rw [toDouble_eq negative nonzero]
  apply Double.ofMagnitude_of_tiny negative (toRat_pos nonzero)
  have digits : (decimal.digits : Rat) < 10 ^ (count : Int) := by exact_mod_cast few
  calc decimal.toRat < 10 ^ (count : Int) * 10 ^ decimal.exponent := by
        unfold toRat
        gcongr
    _ = 10 ^ (count + decimal.exponent) := (zpow_add₀ (by norm_num) _ _).symm
    _ ≤ 2 ^ (3 * (count + decimal.exponent)) := ten_zpow_le_two_zpow (by omega)
    _ ≤ 2 ^ (-1075 : Int) := zpow_le_zpow_right₀ one_le_two (by omega)

end OutOfRange

end Decimal

/-! ## Exact numbers -/

namespace Decimal

/-- The double of a decimal is the one nearest to its exact value. -/
theorem toDouble_eq_ofRat (decimal : Decimal) (negative : Bool) :
    decimal.toDouble negative =
      Double.ofRat negative (if negative then -decimal.toRat else decimal.toRat) := by
  by_cases zero : decimal.digits = 0
  · have nothing : decimal.toRat = 0 := by
      rw [toRat, zero, Nat.cast_zero, zero_mul]
    rw [toDouble, if_pos zero, nothing, neg_zero, ite_self, Double.ofRat, if_pos rfl]
  · have positive := toRat_pos zero
    rw [toDouble_eq negative zero]
    cases negative with
    | false => rw [if_neg Bool.false_ne_true, Double.ofRat, if_neg positive.ne', if_neg positive.not_gt]
    | true =>
        have below : -decimal.toRat < 0 := neg_lt_zero.mpr positive
        rw [if_pos rfl, Double.ofRat, if_neg below.ne, if_pos below, neg_neg]

end Decimal

namespace Spelling

/-- The exact number that is written. -/
def toRat (spelling : Spelling) : Rat :=
  if spelling.sign.isMinus then -spelling.decimal.toRat else spelling.decimal.toRat

theorem toDouble_decimal (spelling : Spelling) :
    spelling.decimal.toDouble spelling.sign.isMinus =
      Double.ofRat spelling.sign.isMinus spelling.toRat :=
  Decimal.toDouble_eq_ofRat _ _

end Spelling

/-! ## Modest spellings -/

theorem readWhole_lt {digits : List Char} (all : ∀ digit ∈ digits, digit.isDigit = true) :
    readWhole digits < 10 ^ digits.length := by
  induction digits with
  | nil => decide
  | cons digit others ih =>
      obtain ⟨here, behind⟩ := List.forall_mem_cons.mp all
      have first : readWhole [digit] ≤ 9 := by
        obtain ⟨_, high⟩ := Char.isDigit_iff_toNat.mp here
        have nine : '9'.toNat - '0'.toNat = 9 := rfl
        rw [readWhole_eq, Nat.ofDigitChars_cons, Nat.ofDigitChars_nil]
        omega
      calc readWhole ([digit] ++ others)
          = readWhole [digit] * 10 ^ others.length + readWhole others := readWhole_append _ _
        _ < 9 * 10 ^ others.length + 10 ^ others.length :=
          Nat.add_lt_add_of_le_of_lt (Nat.mul_le_mul_right _ first) (ih behind)
        _ = 10 ^ (digit :: others).length := by
          rw [List.length_cons, Nat.pow_succ]
          omega

namespace Figures

variable {figures : Figures}

theorem isDigit_of_mem (figures : Figures) :
    ∀ digit ∈ figures.whole ++ figures.places, digit.isDigit = true := by
  match figures with
  | leading whole none => exact List.forall_mem_append.mpr ⟨whole.all, nofun⟩
  | leading whole (some places) => exact List.forall_mem_append.mpr ⟨whole.all, places.2⟩
  | trailing places => exact List.forall_mem_append.mpr ⟨nofun, places.all⟩

theorem digits_lt (figures : Figures) : figures.decimal.digits < 10 ^ figures.count := by
  have bounded := readWhole_lt figures.isDigit_of_mem
  rwa [List.length_append] at bounded

/-- Behind few digits, an exponent that reaches the bound leaves no finite number but zero. -/
theorem toDouble_shift_of_far (sign : Sign) (negative : Bool) {size : Nat}
    (nonzero : figures.decimal.digits ≠ 0) (few : figures.count ≤ 65000) (far : 65536 ≤ size) :
    (figures.decimal.shift (sign.apply size)).toDouble negative =
      if sign.isMinus then .zero negative else .infinite negative := by
  have places : figures.places.length ≤ figures.count := Nat.le_add_left _ _
  have upwards : 400 < -(figures.places.length : Int) + size := by omega
  cases sign with
  | minus =>
      have shifted : (figures.decimal.shift (-size)).digits ≠ 0 := nonzero
      refine Decimal.toDouble_of_tiny negative shifted figures.digits_lt ?_
      change (figures.count : Int) + (-(figures.places.length : Int) + -(size : Int)) ≤ -400
      omega
  | absent | plus => exact Decimal.toDouble_of_huge negative nonzero upwards

end Figures

namespace Spelling

/-- The text has few digits, or the exponent that it writes is not far beyond the bound. -/
def Modest (spelling : Spelling) : Prop :=
  spelling.figures.count ≤ 65000 ∨
    ∀ exponent ∈ spelling.exponent, readWhole exponent.digits.characters < 655360

/-- What is read of a modest text has the double nearest to what is written. -/
theorem Modest.toDouble_taken {spelling : Spelling} (modest : spelling.Modest) :
    spelling.taken.toDouble spelling.sign.isMinus =
      Double.ofRat spelling.sign.isMinus spelling.toRat := by
  rw [← toDouble_decimal]
  obtain ⟨sign, figures, exponent⟩ := spelling
  cases exponent with
  | none => rfl
  | some exponent =>
      change (figures.decimal.shift exponent.taken).toDouble sign.isMinus =
        (figures.decimal.shift exponent.value).toDouble sign.isMinus
      rcases Decimal.heeded_cases exponent.digits.characters with all | ⟨reached, far⟩
      · rw [Exponent.taken, all, Exponent.value]
      · rcases modest with few | near
        · by_cases zero : figures.decimal.digits = 0
          · exact (if_pos zero).trans (if_pos zero).symm
          · rw [Exponent.taken, Figures.toDouble_shift_of_far _ _ zero few reached, Exponent.value,
              Figures.toDouble_shift_of_far _ _ zero few (by omega)]
        · have below := near exponent rfl
          omega

end Spelling

end LineCalc
