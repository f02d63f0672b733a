import LineCalc.Operand
import LineCalc.Proofs.Failure

/-!
# Checks of operands

Only values pass the check for a value.  Of several operands, the first one that is no value is
blamed.
-/

namespace LineCalc.Operand

variable {operand : Operand}

@[simp]
theorem asValue_eq_ok_iff {value : Value} :
    operand.asValue = .ok value ↔ operand = .value value := by
  cases operand <;> simp [asValue]

theorem asNumber_eq_ok_iff {number : Double} :
    operand.asNumber = .ok number ↔ ∃ value, operand = .value value ∧ value.toNumber = number := by
  simp only [asNumber, map_eq_ok_iff, asValue_eq_ok_iff]

theorem mapM_asValue_eq_ok_iff {operands : List Operand} {values : List Value} :
    operands.mapM asValue = .ok values ↔ operands = values.map .value := by
  induction operands generalizing values with
  | nil => cases values <;> simp [pure, Except.pure]
  | cons operand others ih =>
      rw [List.mapM_cons]
      cases values with
      | nil => simp [bind_eq_ok_iff, pure, Except.pure]
      | cons value values => simp [bind_eq_ok_iff, pure, Except.pure, ih]

/-! ## Refused operands -/

/-- Why the operand is no value, if it is none. -/
def refusal? : Operand → Option EvalError
  | value _ => none
  | function builtin => some (.meaningless (.functionAsValue builtin.name))
  | nothing builtin => some (.meaningless (.noValue builtin.name))

@[simp]
theorem refusal?_value (content : Value) : (value content).refusal? = none :=
  rfl

theorem asValue_eq_error_iff {error : EvalError} :
    operand.asValue = .error error ↔ operand.refusal? = some error := by
  cases operand <;> simp [asValue, refusal?]

theorem asNumber_eq_error_iff {error : EvalError} :
    operand.asNumber = .error error ↔ operand.refusal? = some error := by
  rw [asNumber, map_eq_error_iff, asValue_eq_error_iff]

/-- The first operand that is no value makes the check fail. -/
theorem mapM_asValue_eq_error_iff {operands : List Operand} {error : EvalError} :
    operands.mapM asValue = .error error ↔ operands.findSome? refusal? = some error := by
  induction operands with
  | nil => simp [pure, Except.pure]
  | cons operand others ih =>
      rw [List.mapM_cons, bind_eq_error_iff, asValue_eq_error_iff, List.findSome?_cons]
      cases operand with
      | value content => simp [refusal?, asValue, bind_eq_error_iff, ih, pure, Except.pure]
      | function builtin | nothing builtin => simp [refusal?, asValue]

theorem semantic_asValue (operand : Operand) : Semantic operand.asValue := by
  cases operand with
  | value content => exact semantic_ok content
  | function builtin => exact semantic_meaningless (.functionAsValue builtin.name)
  | nothing builtin => exact semantic_meaningless (.noValue builtin.name)

theorem semantic_asNumber (operand : Operand) : Semantic operand.asNumber :=
  operand.semantic_asValue.map Value.toNumber

end LineCalc.Operand
