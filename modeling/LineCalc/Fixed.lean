import LineCalc.Double.Root

/-!
# Fixed-point numbers

Numbers approximated by whole multiples of a power of two, with as many binary places as their type
says.  Each operation is off by a few units of the last place.  Power series are summed until their
terms vanish.
-/

namespace LineCalc

/-- A whole number of units of `2 ^ (-places)`. -/
structure Fixed (places : Nat) where
  units : Int

namespace Fixed

variable {places : Nat}

/-- The number one, in units. -/
def scale (places : Nat) : Nat :=
  1 <<< places

/-- An approximation from below. -/
def ofRat (exact : Rat) : Fixed places :=
  ⟨(exact * scale places).floor⟩

/-- The exact value. -/
def toRat (number : Fixed places) : Rat :=
  number.units / scale places

instance : Add (Fixed places) :=
  ⟨fun left right => ⟨left.units + right.units⟩⟩

instance : Sub (Fixed places) :=
  ⟨fun left right => ⟨left.units - right.units⟩⟩

instance : Neg (Fixed places) :=
  ⟨fun number => ⟨-number.units⟩⟩

instance : Mul (Fixed places) :=
  ⟨fun left right => ⟨(left.units * right.units).tdiv (scale places)⟩⟩

instance : Div (Fixed places) :=
  ⟨fun left right => ⟨(left.units * scale places).tdiv right.units⟩⟩

/-- The number one. -/
def one : Fixed places :=
  ⟨scale places⟩

/-- A whole multiple. -/
def times (factor : Int) (number : Fixed places) : Fixed places :=
  ⟨factor * number.units⟩

/-- A whole part. -/
def part (number : Fixed places) (divisor : Nat) : Fixed places :=
  ⟨number.units.tdiv divisor⟩

/-- The whole number nearest to a quotient by a positive number. -/
def nearestQuotient (number divisor : Fixed places) : Int :=
  (2 * number.units + divisor.units) / (2 * divisor.units)

/-- Square root of a number that is not negative. -/
def sqrt (number : Fixed places) : Fixed places :=
  ⟨wholeRoot 2 (number.units.toNat <<< places)⟩

/-! ## Power series -/

/-- Sums the shares of a power and of those that follow it, until one vanishes or the bound is
reached. -/
def seriesFrom (share next : Nat → Fixed places → Fixed places) :
    Nat → Nat → Fixed places → Fixed places
  | 0, _, _ => ⟨0⟩
  | bound + 1, index, power =>
      if power.units = 0 then ⟨0⟩
      else share index power + seriesFrom share next bound (index + 1) (next index power)

/-- Sums the shares of the powers from a first one on.  Every power must be at most half as large as
the one before. -/
def series (share next : Nat → Fixed places → Fixed places) (first : Fixed places) :
    Fixed places :=
  seriesFrom share next (first.units.natAbs.log2 + 2) 0 first

/-- Exponential of a number between minus and plus one half. -/
def exp (number : Fixed places) : Fixed places :=
  series (fun _ power => power) (fun index power => (power * number).part (index + 1)) one

/-- Sine of a number between minus and plus one. -/
def sin (number : Fixed places) : Fixed places :=
  let square := number * number
  series (fun _ power => power)
    (fun index power => -((power * square).part ((2 * index + 2) * (2 * index + 3)))) number

/-- Cosine of a number between minus and plus one. -/
def cos (number : Fixed places) : Fixed places :=
  let square := number * number
  series (fun _ power => power)
    (fun index power => -((power * square).part ((2 * index + 1) * (2 * index + 2)))) one

/-- Inverse tangent of a number between minus and plus one half. -/
def smallArctan (number : Fixed places) : Fixed places :=
  let square := number * number
  series (fun index power => power.part (2 * index + 1)) (fun _ power => -(power * square)) number

/-- Inverse hyperbolic tangent of a number between minus and plus one half. -/
def artanh (number : Fixed places) : Fixed places :=
  let square := number * number
  series (fun index power => power.part (2 * index + 1)) (fun _ power => power * square) number

/-! ## Constants and arguments of any size -/

/-- Half the circumference of the unit circle. -/
def pi : Fixed places :=
  times 16 (smallArctan (one.part 5)) - times 4 (smallArctan (one.part 239))

/-- Natural logarithm of two. -/
def logTwo : Fixed places :=
  times 2 (artanh (one.part 3))

/-- The tangent of half the angle whose tangent is given. -/
def halfAngle (tangent : Fixed places) : Fixed places :=
  tangent / (one + (one + tangent * tangent).sqrt)

/-- Inverse tangent of a number from zero to one. -/
def arctan (tangent : Fixed places) : Fixed places :=
  times 8 (smallArctan (halfAngle (halfAngle (halfAngle tangent))))

/-- Natural logarithm of a positive number, as that of a power of two and that of a number near
one. -/
def log (exact : Rat) : Fixed places :=
  let position := binaryPosition exact
  let scaled := exact / (2 : Rat) ^ position
  let (exponent, rest) :=
    if 2 < scaled * scaled then (position + 1, scaled / 2) else (position, scaled)
  times exponent logTwo + times 2 (artanh (ofRat ((rest - 1) / (rest + 1))))

end Fixed

end LineCalc
