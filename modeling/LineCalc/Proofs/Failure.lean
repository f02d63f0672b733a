import LineCalc.Error

/-!
# Failures

Computations that may fail, and the two reasons for which a line fails: it is malformed, or it
cannot be evaluated.  Only the rules that read a line find it malformed.
-/

namespace LineCalc

variable {α β : Type} {outcome : Except EvalError α}

instance decidableEqOutcome [DecidableEq α] : DecidableEq (Except EvalError α)
  | .ok left, .ok right => decidable_of_iff (left = right) (by simp)
  | .error left, .error right => decidable_of_iff (left = right) (by simp)
  | .ok _, .error _ | .error _, .ok _ => .isFalse nofun

@[simp]
theorem map_error (function : α → β) (error : EvalError) :
    function <$> (.error error : Except EvalError α) = .error error :=
  rfl

@[simp]
theorem bind_error (next : α → Except EvalError β) (error : EvalError) :
    (.error error : Except EvalError α) >>= next = .error error :=
  rfl

@[simp]
theorem map_ok (function : α → β) (value : α) :
    function <$> (.ok value : Except EvalError α) = .ok (function value) :=
  rfl

@[simp]
theorem bind_ok (next : α → Except EvalError β) (value : α) :
    (.ok value : Except EvalError α) >>= next = next value :=
  rfl

theorem map_eq_ok_iff {function : α → β} {result : β} :
    function <$> outcome = .ok result ↔ ∃ value, outcome = .ok value ∧ function value = result := by
  cases outcome <;> simp

theorem bind_eq_ok_iff {next : α → Except EvalError β} {result : β} :
    outcome >>= next = .ok result ↔ ∃ value, outcome = .ok value ∧ next value = .ok result := by
  cases outcome <;> simp

theorem map_eq_error_iff {function : α → β} {error : EvalError} :
    function <$> outcome = .error error ↔ outcome = .error error := by
  cases outcome <;> simp

theorem bind_eq_error_iff {next : α → Except EvalError β} {error : EvalError} :
    outcome >>= next = .error error ↔
      outcome = .error error ∨ ∃ value, outcome = .ok value ∧ next value = .error error := by
  cases outcome <;> simp

/-- If the computation fails, this is due to what a line refers to, not to how it is written. -/
def Semantic (outcome : Except EvalError α) : Prop :=
  ∀ error, outcome = .error error → ∃ fault, error = .meaningless fault

theorem semantic_ok (value : α) : Semantic (.ok value) := by
  intro error failed
  exact absurd failed (by simp)

theorem semantic_meaningless (fault : SemanticError) :
    Semantic (.error (.meaningless fault) : Except EvalError α) := by
  intro error failed
  exact ⟨fault, (Except.error.inj failed).symm⟩

namespace Semantic

theorem bind {next : α → Except EvalError β} (semantic : Semantic outcome)
    (semanticNext : ∀ value, Semantic (next value)) : Semantic (outcome >>= next) := by
  cases outcome with
  | ok value => exact semanticNext value
  | error reason =>
      obtain ⟨fault, rfl⟩ := semantic reason rfl
      exact semantic_meaningless fault

theorem map (function : α → β) (semantic : Semantic outcome) : Semantic (function <$> outcome) :=
  semantic.bind fun value => semantic_ok (function value)

end Semantic

end LineCalc
