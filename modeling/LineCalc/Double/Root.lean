import LineCalc.Double.Rounding

/-!
# Roots

Square and cube roots are the doubles nearest to the exact roots.  The root of a large whole
multiple is taken down to a whole number; where it is not exact, the number half-way to the next one
stands for it, which lies on the same side of every point where rounding changes.
-/

namespace LineCalc

/-- Adds to a root the powers of two below `2 ^ bits`, from the largest on, that keep its power
within the radicand. -/
def wholeRootFrom (degree radicand : Nat) : Nat → Nat → Nat
  | 0, root => root
  | bit + 1, root =>
      let larger := root + 1 <<< bit
      wholeRootFrom degree radicand bit (if larger.pow degree ≤ radicand then larger else root)

/-- The largest whole number whose power of a positive degree is within the radicand. -/
def wholeRoot (degree radicand : Nat) : Nat :=
  wholeRootFrom degree radicand (radicand.log2 / degree + 1) 0

namespace Double

/-- The double nearest to the root of `significand * 2 ^ exponent`, for a positive degree.  At least
four hundred bits are taken in behind the significand. -/
def rootOf (degree : Nat) (negative : Bool) (significand : Nat) (exponent : Int) : Double :=
  let shift := 400 + ((exponent - 400) % degree).toNat
  let radicand := significand <<< shift
  let root := wholeRoot degree radicand
  let doubled := if root.pow degree = radicand then 2 * root else 2 * root + 1
  ofRat negative
    ((if negative then -1 else 1) * (doubled / 2) * (2 : Rat) ^ ((exponent - shift) / degree))

/-- Square root; not-a-number below zero. -/
def sqrt (number : Double) : Double :=
  match number with
  | nan => nan
  | infinite negative => if negative then nan else infinite false
  | finite negative significand exponent _ =>
      if significand = 0 then number
      else if negative then nan
      else rootOf 2 false significand exponent

/-- Cube root. -/
def cbrt (number : Double) : Double :=
  match number with
  | finite negative significand exponent _ => rootOf 3 negative significand exponent
  | _ => number

end Double

end LineCalc
