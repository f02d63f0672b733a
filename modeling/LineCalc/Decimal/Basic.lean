import LineCalc.Double.Rounding

/-!
# Decimals

A decimal is a whole number of units of a power of ten.  Its double is the nearest one to its exact
value.
-/

namespace LineCalc

/-- The number `digits * 10 ^ exponent`. -/
structure Decimal where
  /-- Whole number written by the digits. -/
  digits : Nat
  /-- Power of ten that the last digit counts. -/
  exponent : Int
  deriving DecidableEq

/-- The number that digits write.  They are halved as often as the depth says and the halves read on
their own, so that long numbers take few multiplications of long numbers. -/
def readHalves : Nat → List Char → Nat
  | 0, digits => Nat.ofDigitChars 10 digits 0
  | depth + 1, digits =>
      let half := digits.length / 2
      let later := digits.drop half
      readHalves depth (digits.take half) * Nat.pow 10 later.length + readHalves depth later

theorem readHalves_eq (depth : Nat) (digits : List Char) :
    readHalves depth digits = Nat.ofDigitChars 10 digits 0 := by
  induction depth generalizing digits with
  | zero => rfl
  | succ depth induction =>
      simp only [readHalves, induction]
      conv => rhs; rw [← List.take_append_drop (digits.length / 2) digits]
      rw [Nat.ofDigitChars_append,
        @Nat.ofDigitChars_eq_ofDigitChars_zero _ (Nat.ofDigitChars _ _ _)]
      simp [Nat.mul_comm]

/-- The number that digits write. -/
def readWhole (digits : List Char) : Nat :=
  readHalves (digits.length / 64).log2 digits

theorem readWhole_eq (digits : List Char) : readWhole digits = Nat.ofDigitChars 10 digits 0 :=
  readHalves_eq _ digits

namespace Decimal

/-- The exact value. -/
def toRat (decimal : Decimal) : Rat :=
  decimal.digits * (10 : Rat) ^ decimal.exponent

/-- The decimal written with digits before and after a point. -/
def ofDigits (whole fraction : List Char) : Decimal :=
  ⟨readWhole (whole ++ fraction), -fraction.length⟩

/-- The decimal with its point moved to the right. -/
def shift (decimal : Decimal) (places : Int) : Decimal :=
  { decimal with exponent := decimal.exponent + places }

/-- The nearest double, with the given sign.  A decimal of at least `10 ^ 401` or less than
`10 ^ (-400)` is far outside the range of finite doubles, and its power of ten is not computed. -/
def toDouble (negative : Bool) (decimal : Decimal) : Double :=
  if decimal.digits = 0 then Double.zero negative
  else if 400 < decimal.exponent then Double.infinite negative
  else if decimal.exponent + decimal.digits.log2 < -400 then Double.zero negative
  else Double.ofMagnitude negative decimal.toRat

end Decimal

end LineCalc
