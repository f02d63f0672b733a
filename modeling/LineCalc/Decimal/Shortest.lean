import LineCalc.Decimal.Basic

/-!
# Shortest decimals

The shortest decimal of a double lies on the coarsest decimal grid on which some point reads back as
that double.  Only the two grid points around the double have to be tried: if any point of a grid
reads back, one of these does.  If both do, the nearer one is taken, and the upper one if they are
equally near.
-/

namespace LineCalc.Decimal

/-- The decimal reads back as the positive double. -/
def ReadsAs (decimal : Decimal) (number : Double) : Prop :=
  decimal.toDouble false = number

instance (decimal : Decimal) (number : Double) : Decidable (decimal.ReadsAs number) :=
  inferInstanceAs (Decidable (_ = _))

/-- The point that reads back as the number on the grid of multiples of `10 ^ exponent`, or else on
the next finer ones; after `bound` grids, the point just below. -/
def shortestFrom (number : Double) : Nat → Int → Decimal
  | bound, exponent =>
      let scaled := number.toRat / (10 : Rat) ^ exponent
      let below : Decimal := ⟨scaled.floor.toNat, exponent⟩
      let above : Decimal := ⟨below.digits + 1, exponent⟩
      match bound with
      | 0 => below
      | bound + 1 =>
          if below.ReadsAs number then
            if above.ReadsAs number ∧ 1 / 2 ≤ scaled - below.digits then above else below
          else if above.ReadsAs number then above
          else shortestFrom number bound (exponent - 1)

/-- A power of ten above a positive number, not more than a hundred times as large. -/
def exponentAbove (magnitude : Rat) : Int :=
  (Nat.toDigits 10 magnitude.num.natAbs).length - (Nat.toDigits 10 magnitude.den).length + 1

/-- The shortest decimal that reads back as a positive double.  Every double is a multiple of
`10 ^ (-1074)`, so some grid down to that one has such a point. -/
def shortest (number : Double) : Decimal :=
  let start := exponentAbove number.toRat
  shortestFrom number (start + 1075).toNat start

end LineCalc.Decimal
