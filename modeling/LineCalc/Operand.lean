import LineCalc.Error
import LineCalc.Value

/-!
# Operands

What a part of a line amounts to: a value, a builtin that is named without being called, or the
empty result of a builtin that only speaks to the console.  Only values can be computed with.
-/

namespace LineCalc

/-- The result of a part of a line. -/
inductive Operand where
  | value (content : Value)
  /-- A builtin named without being called. -/
  | function (builtin : Builtin)
  /-- The empty result of a builtin. -/
  | nothing (builtin : Builtin)
  deriving DecidableEq

namespace Operand

/-- The operand as a value, which a builtin and an empty result are not. -/
def asValue : Operand → Except EvalError Value
  | value content => .ok content
  | function builtin => .error (.meaningless (.functionAsValue builtin.name))
  | nothing builtin => .error (.meaningless (.noValue builtin.name))

/-- The operand as a number. -/
def asNumber (operand : Operand) : Except EvalError Double :=
  Value.toNumber <$> operand.asValue

end Operand

end LineCalc
