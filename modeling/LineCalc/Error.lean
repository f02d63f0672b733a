import LineCalc.Builtin.Arity

/-!
# Errors

A line fails because it is malformed, which is blamed on a position, or because it names something
that cannot be evaluated.  Positions count characters from the beginning of the line.
-/

namespace LineCalc

/-- A fault in how a line is written. -/
inductive SyntaxError where
  /-- The text opened by the quote at the position is never closed. -/
  | unterminatedString (position : Nat)
  | expectedClosingParen (position : Nat)
  | expectedNumber (position : Nat)
  | expectedIdentifier (position : Nat)
  /-- Something follows a complete line. -/
  | unexpectedCharacter (found : Char) (position : Nat)
  deriving DecidableEq

namespace SyntaxError

/-- Where the fault is. -/
def position : SyntaxError → Nat
  | unterminatedString position
  | expectedClosingParen position
  | expectedNumber position
  | expectedIdentifier position
  | unexpectedCharacter _ position => position

def message : SyntaxError → String
  | unterminatedString position => s!"Unterminated string literal starting at position {position}"
  | expectedClosingParen position => s!"Expected ')' at position {position}"
  | expectedNumber position => s!"Expected number at position {position}"
  | expectedIdentifier position => s!"Expected identifier at position {position}"
  | unexpectedCharacter found position => s!"Unexpected character '{found}' at position {position}"

end SyntaxError

/-- A well-written line that cannot be evaluated. -/
inductive SemanticError where
  /-- A call of a name that no builtin has. -/
  | unknownFunction (name : String)
  /-- A name that is neither a variable nor a builtin. -/
  | unknownIdentifier (name : String)
  /-- A call of a builtin with a number of arguments that it does not accept. -/
  | argumentCountMismatch (name : String) (expected : Arity) (found : Nat)
  /-- A builtin itself where a value is needed. -/
  | functionAsValue (name : String)
  /-- The empty result of a builtin where a value is needed. -/
  | noValue (name : String)
  deriving DecidableEq

namespace SemanticError

def message : SemanticError → String
  | unknownFunction name => s!"Unknown function: {name}"
  | unknownIdentifier name => s!"Unknown identifier: {name}"
  | argumentCountMismatch name expected found =>
      s!"{name}() expects {expected.display} argument(s), got {found}"
  | functionAsValue name => s!"{name} is a function; call it as {name}(...)"
  | noValue name => s!"{name}() does not produce a value"

end SemanticError

/-- Why a line fails. -/
inductive EvalError where
  | malformed (error : SyntaxError)
  | meaningless (error : SemanticError)
  deriving DecidableEq

/-- The text that describes the failure. -/
def EvalError.message : EvalError → String
  | malformed error => error.message
  | meaningless error => error.message

end LineCalc
