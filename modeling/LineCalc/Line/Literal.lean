import LineCalc.Line.Rule

/-!
# Literals and names

Texts stand between quotes and have no escapes.  Numbers are digits, with a point only between
digits.  Names are letters and underscores.
-/

namespace LineCalc

/-- May the character be part of a name? -/
def isNameChar (character : Char) : Bool :=
  character.isAlpha || character = '_'

namespace Rule

/-- Reads a text up to its closing quote, the opening one being next. -/
def string : Rule String := do
  let start ← position
  bump
  let content ← takeWhile (· ≠ '"')
  if ← eat '"' then
    return String.ofList content
  else
    malformed (.unterminatedString start)

/-- Reads the part of a number after its point, if a point and a digit are next. -/
def fraction : Rule (List Char) := fun state =>
  if state.cursor.peek = some '.' ∧ (state.cursor.peekAt 1).any Char.isDigit then
    (do bump; takeWhile Char.isDigit) state
  else
    .ok [] state

/-- Reads a number. -/
def number : Rule Double := do
  skipBlanks
  let start ← position
  let whole ← takeWhile Char.isDigit
  if whole = [] then
    malformed (.expectedNumber start)
  else
    let places ← fraction
    return (Decimal.ofDigits whole places).toDouble false

/-- Reads a name. -/
def identifier : Rule String := do
  skipBlanks
  let start ← position
  let name ← takeWhile isNameChar
  if name = [] then
    malformed (.expectedIdentifier start)
  else
    return String.ofList name

end Rule

end LineCalc
