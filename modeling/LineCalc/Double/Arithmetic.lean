import LineCalc.Double.Rounding

/-!
# Arithmetic of doubles

Each operation on finite doubles is the exact one followed by a single rounding.  The cases that the
exact operation leaves open are those of infinities, of not-a-number, and of the sign of a zero.
-/

namespace LineCalc.Double

/-- The double with the opposite sign. -/
def neg : Double → Double
  | nan => nan
  | infinite negative => infinite (!negative)
  | finite negative significand exponent canonical =>
      finite (!negative) significand exponent canonical

/-- The double without its sign. -/
def abs : Double → Double
  | nan => nan
  | infinite _ => infinite false
  | finite _ significand exponent canonical => finite false significand exponent canonical

/-- Sum.  A sum of zero is negative only if both terms are. -/
def add (left right : Double) : Double :=
  match left, right with
  | nan, _ | _, nan => nan
  | infinite negative, infinite other => if negative = other then infinite negative else nan
  | infinite negative, finite .. | finite .., infinite negative => infinite negative
  | finite .., finite .. =>
      ofRat (left.isNegative && right.isNegative) (left.toRat + right.toRat)

/-- Difference. -/
def sub (left right : Double) : Double :=
  add left (neg right)

/-- Product. -/
def mul (left right : Double) : Double :=
  let negative := left.isNegative != right.isNegative
  match left, right with
  | nan, _ | _, nan => nan
  | infinite _, infinite _ => infinite negative
  | infinite _, finite _ significand .. | finite _ significand .., infinite _ =>
      if significand = 0 then nan else infinite negative
  | finite .., finite .. => ofRat negative (left.toRat * right.toRat)

/-- Quotient.  Dividing by a zero gives an infinity, or not-a-number for zero by zero. -/
def div (left right : Double) : Double :=
  let negative := left.isNegative != right.isNegative
  match left, right with
  | nan, _ | _, nan => nan
  | infinite _, infinite _ => nan
  | infinite _, finite .. => infinite negative
  | finite .., infinite _ => zero negative
  | finite _ dividend .., finite _ divisor .. =>
      if divisor = 0 then
        if dividend = 0 then nan else infinite negative
      else
        ofRat negative (left.toRat / right.toRat)

/-- The whole number next to a number on the side of zero. -/
def towardZero (exact : Rat) : Int :=
  if exact < 0 then exact.ceil else exact.floor

/-- Remainder of the division whose quotient is cut off towards zero; it has the sign of the
dividend. -/
def rem (left right : Double) : Double :=
  match left, right with
  | nan, _ | _, nan | infinite _, _ => nan
  | finite .., infinite _ => left
  | finite .., finite _ divisor .. =>
      if divisor = 0 then nan
      else
        ofRat left.isNegative
          (left.toRat - right.toRat * towardZero (left.toRat / right.toRat))

/-- The largest whole number that is not above. -/
def floor (number : Double) : Double :=
  if number.isFinite then ofRat number.isNegative number.toRat.floor else number

/-- The smallest whole number that is not below. -/
def ceil (number : Double) : Double :=
  if number.isFinite then ofRat number.isNegative number.toRat.ceil else number

/-- Is the number whole? -/
def isWhole (number : Double) : Bool :=
  number.isFinite && number.toRat.den == 1

/-! ## Order -/

/-- Numeric order; not-a-number is less than nothing and nothing is less than it. -/
def less (left right : Double) : Bool :=
  match left, right with
  | nan, _ | _, nan => false
  | infinite negative, infinite other => negative && !other
  | infinite negative, finite .. => negative
  | finite .., infinite negative => !negative
  | finite .., finite .. => left.toRat < right.toRat

/-- Numeric order or equality; false of not-a-number on either side. -/
def atMost (left right : Double) : Bool :=
  match left, right with
  | nan, _ | _, nan => false
  | infinite negative, infinite other => negative || !other
  | infinite negative, finite .. => negative
  | finite .., infinite negative => !negative
  | finite .., finite .. => left.toRat ≤ right.toRat

/-- The larger of two numbers. -/
def larger (left right : Double) : Double :=
  if left.less right then right else left

/-- The smaller of two numbers. -/
def smaller (left right : Double) : Double :=
  if right.less left then right else left

end LineCalc.Double
