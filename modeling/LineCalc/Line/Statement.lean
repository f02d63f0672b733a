import LineCalc.Line.Expression

/-!
# Statements

A line is one statement and nothing after it.  A statement is an assignment if it can be read as
one; otherwise it is read from its beginning as an expression.
-/

namespace LineCalc

/-- What a line says. -/
inductive Statement where
  /-- The name shall have the value. -/
  | assignment (name : String) (value : Value)
  | expression (operand : Operand)
  deriving DecidableEq

namespace Rule

/-- Reads an assignment, unless something else than `=` follows the name. -/
def assignment (scope : Scope) : Rule (Option Statement) := do
  let name ← identifier
  skipBlanks
  if ← eat '=' then
    let operand ← expression scope
    let value ← asValue operand
    return some (.assignment name value)
  else
    return none

/-- Reads a statement. -/
def statement (scope : Scope) : Rule Statement := do
  skipBlanks
  orElse (assignment scope) (return .expression (← expression scope))

/-- Fails unless only blanks are left. -/
def lineEnd : Rule Unit := do
  skipBlanks
  match ← peek with
  | none => return ()
  | some found => malformed (.unexpectedCharacter found (← position))

/-- Reads a whole line. -/
def line (scope : Scope) : Rule Statement := do
  let result ← statement scope
  lineEnd
  return result

end Rule

end LineCalc
