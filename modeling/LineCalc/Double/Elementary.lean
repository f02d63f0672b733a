import LineCalc.Double.Arithmetic
import LineCalc.Fixed

/-!
# Elementary functions

Exponentials, logarithms, trigonometric functions and powers, rounded from approximations that are
far finer than doubles.  Rounding an approximation goes wrong only if the exact value lies next to a
point half-way between two doubles.  Such values are met among powers, and those are computed
exactly.
-/

namespace LineCalc.Double

/-- The number of leading binary zeros or digits that a number has beside those of one. -/
def extent (exact : Rat) : Nat :=
  (binaryPosition exact).natAbs

/-- Binary places of the approximations for an argument of ordinary size. -/
def ordinaryPlaces : Nat :=
  320

/-- The double nearest to an approximation. -/
def ofFixed {places : Nat} (number : Fixed places) : Double :=
  ofRat false number.toRat

/-! ## Exponentials and logarithms -/

/-- The double nearest to the exponential of an approximated exponent.  Above `720` it is an
infinity, below `-760` a zero. -/
def expOf {places : Nat} (exponent : Fixed places) : Double :=
  if 720 * (Fixed.scale places : Int) < exponent.units then infinite false
  else if exponent.units < -760 * (Fixed.scale places : Int) then zero false
  else
    let doublings := exponent.nearestQuotient Fixed.logTwo
    let rest := exponent - Fixed.times doublings Fixed.logTwo
    ofRat false (rest.exp.toRat * (2 : Rat) ^ doublings)

/-- Exponential. -/
def exp (number : Double) : Double :=
  match number with
  | nan => nan
  | infinite negative => if negative then zero false else infinite false
  | finite .. =>
      let exponent : Fixed (ordinaryPlaces + extent number.toRat) := Fixed.ofRat number.toRat
      expOf exponent

/-- A logarithm of positive numbers, for all doubles. -/
def logarithm (ofPositive : Rat → Double) (number : Double) : Double :=
  match number with
  | nan => nan
  | infinite negative => if negative then nan else infinite false
  | finite negative significand .. =>
      if significand = 0 then infinite true
      else if negative then nan
      else ofPositive number.toRat

/-- Natural logarithm. -/
def log : Double → Double :=
  logarithm fun exact =>
    let result : Fixed ordinaryPlaces := Fixed.log exact
    ofFixed result

/-- Logarithm to the base ten. -/
def log10 : Double → Double :=
  logarithm fun exact =>
    let natural : Fixed ordinaryPlaces := Fixed.log exact
    let logTen : Fixed ordinaryPlaces := Fixed.log 10
    ofRat false (natural.toRat / logTen.toRat)

/-! ## Trigonometric functions -/

/-- The angle as a whole number of right angles and a rest of at most half of one on either side. -/
def turn {places : Nat} (angle : Fixed places) : Int × Fixed places :=
  let right := Fixed.pi.part 2
  let count := angle.nearestQuotient right
  (count, angle - Fixed.times count right)

/-- Sine of a number of right angles and a rest. -/
def sineOf {places : Nat} (count : Int) (rest : Fixed places) : Fixed places :=
  match (count % 4).toNat with
  | 0 => rest.sin
  | 1 => rest.cos
  | 2 => -rest.sin
  | _ => -rest.cos

/-- A function of angles that are approximated as right angles and a rest. -/
def trigonometric (ofTurn : {places : Nat} → Int → Fixed places → Double) (number : Double) :
    Double :=
  let angle : Fixed (ordinaryPlaces + 2 * extent number.toRat) := Fixed.ofRat number.toRat
  let (count, rest) := turn angle
  if number.isFinite then ofTurn count rest else nan

/-- Sine. -/
def sin (number : Double) : Double :=
  if number.toRat = 0 ∧ number.isFinite then number
  else trigonometric (fun count rest => ofFixed (sineOf count rest)) number

/-- Cosine. -/
def cos : Double → Double :=
  trigonometric fun count rest => ofFixed (sineOf (count + 1) rest)

/-- Tangent. -/
def tan (number : Double) : Double :=
  if number.toRat = 0 ∧ number.isFinite then number
  else
    trigonometric
      (fun count rest =>
        ofRat false ((sineOf count rest).toRat / (sineOf (count + 1) rest).toRat))
      number

/-- The angle whose tangent is a positive number. -/
def arctanOf (places : Nat) (tangent : Rat) : Fixed places :=
  if tangent ≤ 1 then Fixed.arctan (Fixed.ofRat tangent)
  else Fixed.pi.part 2 - Fixed.arctan (Fixed.ofRat (1 / tangent))

/-- The angle whose sine is a number from zero to one. -/
def arcsinOf (places : Nat) (sine : Rat) : Fixed places :=
  let cosine : Fixed places := (Fixed.ofRat (1 - sine * sine)).sqrt
  Fixed.times 2 (Fixed.arctan (Fixed.ofRat sine / (Fixed.one + cosine)))

/-- Inverse tangent. -/
def atan (number : Double) : Double :=
  match number with
  | nan => nan
  | infinite negative =>
      let right : Fixed ordinaryPlaces := Fixed.pi.part 2
      ofMagnitude negative right.toRat
  | finite negative significand .. =>
      if significand = 0 then number
      else
        let tangent := number.abs.toRat
        ofMagnitude negative (arctanOf (ordinaryPlaces + extent tangent) tangent).toRat

/-- Inverse sine; not-a-number outside of minus one to one. -/
def asin (number : Double) : Double :=
  match number with
  | finite negative significand .. =>
      let sine := number.abs.toRat
      if significand = 0 then number
      else if 1 < sine then nan
      else ofMagnitude negative (arcsinOf (ordinaryPlaces + extent sine) sine).toRat
  | _ => nan

/-- Inverse cosine; not-a-number outside of minus one to one. -/
def acos (number : Double) : Double :=
  match number with
  | finite negative .. =>
      let sine := number.abs.toRat
      let right : Fixed ordinaryPlaces := Fixed.pi.part 2
      let complement : Fixed ordinaryPlaces := arcsinOf ordinaryPlaces sine
      if 1 < sine then nan
      else if number = one then zero false
      else ofFixed (if negative then right + complement else right - complement)
  | _ => nan

/-! ## Powers -/

/-- The root of a square. -/
def exactRoot? (square : Rat) : Option Rat :=
  let root : Rat := wholeRoot 2 square.num.natAbs / wholeRoot 2 square.den
  if root * root = square then some root else none

/-- The double nearest to a power of a positive number.  Powers with a whole exponent of ordinary
size are exact before they are rounded; others are brought to that form by taking roots of the base,
if it is a square.  What remains is not half-way between doubles. -/
def powOf : Nat → Rat → Rat → Double
  | bound, base, exponent =>
      if exponent.den = 1 ∧ exponent.num.natAbs ≤ 1100 then
        ofRat false (base ^ exponent.num)
      else
        let logarithm : Fixed (ordinaryPlaces + extent base + extent exponent) := Fixed.log base
        let approximate : Fixed ordinaryPlaces := Fixed.ofRat (exponent * logarithm.toRat)
        match bound, exactRoot? base with
        | bound + 1, some root =>
            if exponent.den = 1 then expOf approximate else powOf bound root (2 * exponent)
        | _, _ => expOf approximate

/-- Is the number whole and odd? -/
def isOdd (number : Double) : Bool :=
  number.isWhole && number.toRat.num % 2 == 1

/-- The first number raised to the power of the second.  A zero exponent and the base one give one,
also beside not-a-number; a negative base needs a whole exponent. -/
def pow (base exponent : Double) : Double :=
  if exponent.toRat = 0 ∧ exponent.isFinite ∨ base = one then one
  else
    match base, exponent with
    | nan, _ | _, nan => nan
    | _, infinite down =>
        if base.abs = one then one
        else if base.abs.less one = down then infinite false
        else zero false
    | infinite negative, finite down .. =>
        let sign := negative && exponent.isOdd
        if down then zero sign else infinite sign
    | finite negative significand .., finite down .. =>
        let sign := negative && exponent.isOdd
        if significand = 0 then
          if down then infinite sign else zero sign
        else if negative && !exponent.isWhole then nan
        else
          let power := powOf 12 base.abs.toRat exponent.toRat
          if sign then power.neg else power

end LineCalc.Double
