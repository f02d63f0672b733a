import LineCalc.Decimal.Basic
import LineCalc.Text.Blank

/-!
# Texts as numbers

A text stands for a number if, without the blanks around it, it is empty, spells an infinity, or is
a decimal: an optional sign, digits with an optional point among, before or after them, and an
optional exponent.  Every other text stands for not-a-number.
-/

namespace LineCalc

namespace Decimal

/-- Reads digits with at most one point, at least one digit among them; gives what follows too. -/
def readDigits? (text : List Char) : Option (Decimal × List Char) :=
  let whole := text.takeWhile Char.isDigit
  match text.dropWhile Char.isDigit with
  | '.' :: rest =>
      let fraction := rest.takeWhile Char.isDigit
      if whole = [] ∧ fraction = [] then none
      else some (ofDigits whole fraction, rest.dropWhile Char.isDigit)
  | rest => if whole = [] then none else some (ofDigits whole [], rest)

/-- Reads a sign, if there is one: is it a minus, and what follows? -/
def readSign : List Char → Bool × List Char
  | '+' :: rest => (false, rest)
  | '-' :: rest => (true, rest)
  | rest => (false, rest)

/-- The number that the digits of an exponent give.  Once it has reached `65536` the digits that
follow are passed over: either way the decimal is an infinity or a zero, unless tens of thousands of
zeros make up for the exponent. -/
def exponentMagnitude (digits : List Char) : Nat :=
  digits.foldl
    (fun magnitude digit =>
      if magnitude < 65536 then 10 * magnitude + (digit.toNat - '0'.toNat) else magnitude)
    0

/-- Reads a whole text as an exponent: nothing, or `e` or `E` with an optional sign and digits. -/
def readExponent? : List Char → Option Int
  | [] => some 0
  | mark :: rest =>
      let (negative, digits) := readSign rest
      if (mark = 'e' ∨ mark = 'E') ∧ digits ≠ [] ∧ digits.all Char.isDigit then
        let magnitude : Int := exponentMagnitude digits
        some (if negative then -magnitude else magnitude)
      else
        none

/-- Reads a whole text as a decimal without a sign. -/
def ofText? (text : List Char) : Option Decimal := do
  let (decimal, rest) ← readDigits? text
  let exponent ← readExponent? rest
  return decimal.shift exponent

end Decimal

/-- The number that a text stands for. -/
def Double.ofText (text : String) : Double :=
  match Text.trim text.toList with
  | [] => Double.zero false
  | trimmed =>
      let (negative, magnitude) := Decimal.readSign trimmed
      if magnitude = "Infinity".toList then
        Double.infinite negative
      else
        match Decimal.ofText? magnitude with
        | some decimal => decimal.toDouble negative
        | none => Double.nan

end LineCalc
