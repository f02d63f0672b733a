import LineCalc.Decimal.Shortest
import LineCalc.Double.Arithmetic

/-!
# Numbers as texts

A whole number below `10 ^ 21` is written with all its digits.  Of other numbers the shortest
decimal is written: with an exponent when the number is less than a millionth or at least `10 ^ 21`,
with a point otherwise.
-/

namespace LineCalc

namespace Decimal

/-- Zeros, digits and a point where they belong. -/
def positional (decimal : Decimal) : List Char :=
  let digits := Nat.toDigits 10 decimal.digits
  let places := (-decimal.exponent).toNat
  if 0 ≤ decimal.exponent then
    digits ++ List.replicate decimal.exponent.toNat '0'
  else if places < digits.length then
    digits.take (digits.length - places) ++ '.' :: digits.drop (digits.length - places)
  else
    '0' :: '.' :: (List.replicate (places - digits.length) '0' ++ digits)

/-- One digit, a point with the other digits if there are any, and the exponent with its sign. -/
def scientific (decimal : Decimal) : List Char :=
  match Nat.toDigits 10 decimal.digits with
  | [] => []
  | first :: others =>
      let exponent := decimal.exponent + others.length
      let sign := if exponent < 0 then '-' else '+'
      first :: (if others = [] then [] else '.' :: others) ++
        'e' :: sign :: Nat.toDigits 10 exponent.natAbs

end Decimal

namespace Double

/-- One millionth, from which on numbers are written without an exponent. -/
def leastPositional : Double :=
  Decimal.toDouble false ⟨1, -6⟩

/-- The number `10 ^ 21`, below which numbers are written without an exponent. -/
def positionalLimit : Double :=
  Decimal.toDouble false ⟨1, 21⟩

/-- The text of a positive finite number. -/
def displayMagnitude (number : Double) : List Char :=
  if number.less leastPositional || !number.less positionalLimit then
    (Decimal.shortest number).scientific
  else if number.isWhole then
    Nat.toDigits 10 number.toRat.num.natAbs
  else
    (Decimal.shortest number).positional

/-- The text of a number.  Both zeros are written alike. -/
def display (number : Double) : String :=
  match number with
  | nan => "NaN"
  | infinite negative => if negative then "-Infinity" else "Infinity"
  | finite negative significand .. =>
      if significand = 0 then "0"
      else if negative then String.ofList ('-' :: number.abs.displayMagnitude)
      else String.ofList number.displayMagnitude

end Double

end LineCalc
