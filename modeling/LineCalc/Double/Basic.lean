/-!
# Doubles

A double is not a number, an infinity, or a signed whole multiple of a power of two with at most 53
significant bits.  The pair of significand and exponent is unique for each finite double, so that
two doubles are equal exactly when their bit patterns are (all patterns of not-a-number taken as
one).
-/

namespace LineCalc

/-- The pair is the one that stands for `significand * 2 ^ exponent` among the doubles: 53 bits at
most, all 53 of them used unless the exponent is already the least one. -/
def Canonical (significand : Nat) (exponent : Int) : Prop :=
  significand < 9007199254740992 ∧ -1074 ≤ exponent ∧ exponent ≤ 971 ∧
    (4503599627370496 ≤ significand ∨ exponent = -1074)

instance (significand : Nat) (exponent : Int) : Decidable (Canonical significand exponent) :=
  inferInstanceAs (Decidable (_ ∧ _))

/-- A double-precision number. -/
inductive Double where
  /-- Not a number. -/
  | nan
  /-- An infinity of either sign. -/
  | infinite (negative : Bool)
  /-- The number `significand * 2 ^ exponent` with a sign; both zeros are of this kind. -/
  | finite (negative : Bool) (significand : Nat) (exponent : Int)
      (canonical : Canonical significand exponent)
  deriving DecidableEq

namespace Double

/-- The zero of the given sign. -/
def zero (negative : Bool) : Double :=
  finite negative 0 (-1074) (by decide)

/-- One half. -/
def half : Double :=
  finite false 4503599627370496 (-53) (by decide)

/-- One. -/
def one : Double :=
  finite false 4503599627370496 (-52) (by decide)

/-- Ten. -/
def ten : Double :=
  finite false 5629499534213120 (-49) (by decide)

instance : Inhabited Double :=
  ⟨zero false⟩

/-- The exact number that a finite double is; `0` for the others. -/
def toRat : Double → Rat
  | finite false significand exponent _ => significand * (2 : Rat) ^ exponent
  | finite true significand exponent _ => -(significand * (2 : Rat) ^ exponent)
  | _ => 0

/-- Is the double a number other than an infinity? -/
def isFinite : Double → Bool
  | finite .. => true
  | _ => false

/-- Does the double bear a minus sign?  Zeros have one of their own, not-a-number has none. -/
def isNegative : Double → Bool
  | nan => false
  | infinite negative => negative
  | finite negative .. => negative

/-! ## Bit patterns -/

/-- The 64 bits of a double: sign, eleven bits of exponent, 52 bits of significand. -/
def toBits : Double → UInt64
  | nan => 0x7ff8000000000000
  | infinite negative => signBit negative ||| 0x7ff0000000000000
  | finite negative significand exponent _ =>
      let biased := if significand < 4503599627370496 then 0 else (exponent + 1075).toNat
      signBit negative ||| UInt64.ofNat (biased * 4503599627370496 + significand % 4503599627370496)
where
  /-- The highest bit, set for a negative double. -/
  signBit (negative : Bool) : UInt64 := if negative then 0x8000000000000000 else 0

private theorem canonical_least {fraction : Nat} (small : fraction < 4503599627370496) :
    Canonical fraction (-1074) :=
  ⟨by omega, by decide, by decide, .inr rfl⟩

private theorem canonical_biased {fraction biased : Nat} (small : fraction < 4503599627370496)
    (positive : biased ≠ 0) (bounded : biased < 2047) :
    Canonical (fraction + 4503599627370496) (biased - 1075) :=
  ⟨by omega, by omega, by omega, .inl (by omega)⟩

/-- The double with the given bits. -/
def ofBits (bits : UInt64) : Double :=
  let negative := decide (9223372036854775808 ≤ bits.toNat)
  let biased := bits.toNat / 4503599627370496 % 2048
  let fraction := bits.toNat % 4503599627370496
  have small : fraction < 4503599627370496 := Nat.mod_lt _ (by decide)
  if least : biased = 0 then
    finite negative fraction (-1074) (canonical_least small)
  else if bounded : biased < 2047 then
    finite negative (fraction + 4503599627370496) (biased - 1075)
      (canonical_biased small least bounded)
  else if fraction = 0 then
    infinite negative
  else
    nan

end Double

end LineCalc
