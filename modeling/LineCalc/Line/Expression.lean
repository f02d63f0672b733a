import LineCalc.Line.Literal

/-!
# Expressions

An expression is a chain of terms with `+` and `-` between them, a term a chain of factors with `*`,
`/` and `%`.  A factor is a literal, a factor with a sign, an expression in parentheses, a variable,
a builtin, or a call of a builtin.

The rules are defined under a bound that is at least the number of characters ahead.  Each step past
a character may use a smaller bound; with nothing ahead, which is where a bound of zero is reached,
every rule ends at once.
-/

namespace LineCalc.Rule

/-- Applies operators to an operand as long as one follows. -/
def chainFrom (operator? : Char → Option Operator) (operand : Rule Operand) :
    Nat → Operand → Rule Operand
  | 0, left => return left
  | bound + 1, left => do
      skipBlanks
      match (← peek).bind operator? with
      | none => return left
      | some operator =>
          bump
          let right ← operand
          let leftValue ← asValue left
          let rightValue ← asValue right
          chainFrom operator? operand bound (.value (operator.apply leftValue rightValue))

/-- Reads operands with operators between them, and applies these from left to right. -/
def chain (operator? : Char → Option Operator) (operand : Rule Operand) (bound : Nat) :
    Rule Operand := do
  let first ← operand
  chainFrom operator? operand bound first

/-- A chain of factors. -/
def termOf (factor : Rule Operand) (bound : Nat) : Rule Operand :=
  chain Operator.multiplicative? factor bound

/-- A chain of terms. -/
def expressionOf (factor : Rule Operand) (bound : Nat) : Rule Operand :=
  chain Operator.additive? (termOf factor bound) bound

/-- Steps over a closing parenthesis. -/
def closingParen : Rule Unit := do
  let start ← position
  if ← eat ')' then return () else malformed (.expectedClosingParen start)

/-- Reads expressions with commas between them. -/
def argumentsFrom (expression : Rule Operand) : Nat → Rule (List Operand)
  | 0 => return [← expression]
  | bound + 1 => do
      let first ← expression
      skipBlanks
      if ← eat ',' then
        let others ← argumentsFrom expression bound
        return first :: others
      else
        return [first]

/-- Reads the arguments of a call and the parenthesis that closes it. -/
def arguments (expression : Rule Operand) (bound : Nat) : Rule (List Operand) := do
  skipBlanks
  if (← peek) = some ')' then
    closingParen
    return []
  else
    let operands ← argumentsFrom expression bound
    closingParen
    return operands

/-- What a name without arguments stands for: a variable before a builtin. -/
def named (scope : Scope) (name : String) : Rule Operand :=
  match scope.bindings.get? name, Builtin.lookup? name with
  | some value, _ => return .value value
  | none, some builtin => return .function builtin
  | none, none => meaningless (.unknownIdentifier name)

/-- Reads a name, and the arguments that make it a call. -/
def nameOrCall (scope : Scope) (expression : Rule Operand) (bound : Nat) : Rule Operand := do
  let name ← identifier
  skipBlanks
  if ← eat '(' then
    let operands ← arguments expression bound
    match Builtin.lookup? name with
    | some builtin => call scope builtin operands
    | none => meaningless (.unknownFunction name)
  else
    named scope name

/-- Reads a factor in a line that has no more characters ahead than the bound. -/
def factorWithin (scope : Scope) : Nat → Rule Operand
  | 0 => return .value (.number (← number))
  | bound + 1 => do
      skipBlanks
      match ← peek with
      | some '"' => return .value (.text (← string))
      | some '+' =>
          bump
          factorWithin scope bound
      | some '-' =>
          bump
          let operand ← factorWithin scope bound
          return .value (← asValue operand).neg
      | some '(' =>
          bump
          let operand ← expressionOf (factorWithin scope bound) bound
          skipBlanks
          closingParen
          return operand
      | next =>
          if next.any isNameChar then
            nameOrCall scope (expressionOf (factorWithin scope bound) bound) bound
          else
            return .value (.number (← number))

/-- Reads a factor. -/
def factor (scope : Scope) : Rule Operand :=
  bounded (factorWithin scope)

/-- Reads a term. -/
def term (scope : Scope) : Rule Operand :=
  bounded fun bound => termOf (factorWithin scope bound) bound

/-- Reads an expression. -/
def expression (scope : Scope) : Rule Operand :=
  bounded fun bound => expressionOf (factorWithin scope bound) bound

end LineCalc.Rule
