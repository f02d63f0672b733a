import LineCalc.Double.Basic

/-!
# Rounding

Every exact number is taken to the nearest double; of two equally near ones, to the one with the
even significand.  Numbers past the largest double by half a step or more become infinities.
-/

namespace LineCalc

/-- The exponent of the power of two that a positive number reaches but whose double it does not. -/
def binaryPosition (magnitude : Rat) : Int :=
  let estimate : Int := magnitude.num.natAbs.log2 - magnitude.den.log2
  if (2 : Rat) ^ estimate ≤ magnitude then estimate else estimate - 1

/-- The whole number nearest to a non-negative one; a half goes to the even neighbour. -/
def nearestWhole (magnitude : Rat) : Nat :=
  let below := magnitude.floor.toNat
  let excess := magnitude - below
  if excess < 1 / 2 then below
  else if 1 / 2 < excess then below + 1
  else if below % 2 = 0 then below
  else below + 1

namespace Double

/-- The double `significand * 2 ^ exponent`, where a significand that rounding has carried to a 54th
bit is first halved; an infinity where there is none so large. -/
def ofScaled (negative : Bool) (significand : Nat) (exponent : Int) : Double :=
  if plain : Canonical significand exponent then
    finite negative significand exponent plain
  else if carried :
      significand = 9007199254740992 ∧ Canonical 4503599627370496 (exponent + 1) then
    finite negative 4503599627370496 (exponent + 1) carried.2
  else
    infinite negative

/-- The double nearest to a positive number, with the given sign. -/
def ofMagnitude (negative : Bool) (magnitude : Rat) : Double :=
  let exponent := max (binaryPosition magnitude - 52) (-1074)
  ofScaled negative (nearestWhole (magnitude / (2 : Rat) ^ exponent)) exponent

/-- The double nearest to an exact number; the number zero gets the given sign. -/
def ofRat (negativeZero : Bool) (exact : Rat) : Double :=
  if exact = 0 then zero negativeZero
  else if exact < 0 then ofMagnitude true (-exact)
  else ofMagnitude false exact

end Double

end LineCalc
