import LineCalc.Double.Arithmetic
import LineCalc.Double.Elementary

/-!
# Numeric builtins

Rounding to whole numbers and to decimal places, and factorials, in the arithmetic of doubles.
-/

namespace LineCalc.Double

/-- The nearest whole number; a half goes up. -/
def roundHalfUp (number : Double) : Double :=
  let below := number.floor
  if half.atMost (number.sub below) then below.add one else below

/-- The number scaled by a power of ten, rounded, and scaled back. -/
def roundToDecimalPlace (number places : Double) : Double :=
  let scale := ten.pow places
  (number.mul scale).roundHalfUp.div scale

/-- Multiplies the product by the counter and its successors up to the limit, as long as the product
is finite and for at most the given number of steps. -/
def factorialFrom (limit : Double) : Nat → Double → Double → Double
  | 0, _, product => product
  | steps + 1, counter, product =>
      if counter.atMost limit && product.isFinite then
        factorialFrom limit steps (counter.add one) (product.mul counter)
      else
        product

/-- The product of the whole numbers from one to the number; not-a-number below zero.  The product
of the first 171 whole numbers is too large to be finite. -/
def factorial (number : Double) : Double :=
  if number = nan ∨ number.less (zero false) then nan else factorialFrom number 171 one one

end LineCalc.Double
