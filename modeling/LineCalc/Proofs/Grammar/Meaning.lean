import LineCalc.Line.Statement
import LineCalc.Proofs.Builtin.Call
import LineCalc.Proofs.Grammar.Tree

/-!
# Meaning

What a derivation tree amounts to.  The meaning of a tree is computed from the meanings of its
parts: the parts of a node in reading order, then the checks of the node itself.
-/

namespace LineCalc

/-- A computation that may fail, and that adds to what a line has done. -/
abbrev Meaning := StateT Effects (Except EvalError)

namespace Meaning

/-- The operand as a value. -/
def asValue (operand : Operand) : Meaning Value :=
  StateT.lift operand.asValue

/-- A variable before a builtin of the same name. -/
def named (scope : Scope) (name : String) : Meaning Operand :=
  match scope.bindings.get? name, Builtin.lookup? name with
  | some value, _ => return .value value
  | none, some builtin => return .function builtin
  | none, none => throw (.meaningless (.unknownIdentifier name))

/-- The call of a name, its arguments being evaluated. -/
def called (scope : Scope) (name : String) (operands : List Operand) : Meaning Operand :=
  match Builtin.lookup? name with
  | none => throw (.meaningless (.unknownFunction name))
  | some builtin =>
      if builtin.arity.allows operands.length then
        builtin.call scope.noise operands
      else
        throw (.meaningless
          (.argumentCountMismatch builtin.name builtin.arity operands.length))

/-- An operator between two operands: both are evaluated before the first one is checked. -/
def combine (operator : Operator) (left right : Meaning Operand) : Meaning Operand := do
  let leftOperand ← left
  let rightOperand ← right
  let leftValue ← asValue leftOperand
  let rightValue ← asValue rightOperand
  return .value (operator.apply leftValue rightValue)

end Meaning

/-- What a tree amounts to. -/
def Tree.meaning (scope : Scope) : {category : Category} → Tree category → Meaning category.Result
  | _, number whole places =>
      return .value (.number ((Decimal.ofDigits whole.characters
        (places.elim [] Run.characters)).toDouble false))
  | _, text content _ => return .value (.text (String.ofList content))
  | _, name letters => Meaning.named scope (String.ofList letters.characters)
  | _, call letters arguments => do
      let operands ← arguments.meaning scope
      Meaning.called scope (String.ofList letters.characters) operands
  | _, plus operand => operand.meaning scope
  | _, minus operand => do
      let result ← operand.meaning scope
      let value ← Meaning.asValue result
      return .value value.neg
  | _, group content => content.meaning scope
  | _, factor only => only.meaning scope
  | _, multiplicative left _ operator _ right =>
      Meaning.combine operator (left.meaning scope) (right.meaning scope)
  | _, term only => only.meaning scope
  | _, additive left _ operator _ right =>
      Meaning.combine operator (left.meaning scope) (right.meaning scope)
  | _, last only => do
      let operand ← only.meaning scope
      return [operand]
  | _, more first others => do
      let operand ← first.meaning scope
      let operands ← others.meaning scope
      return operand :: operands
  | _, empty => return []
  | _, filled list => list.meaning scope

namespace Meaning

variable {α β : Type} {effects later last : Effects}

theorem bind_of_ok {first : Meaning α} {next : α → Meaning β} {value : α}
    (ok : first effects = .ok (value, later)) :
    (first >>= next) effects = next value later := by
  simp [Bind.bind, StateT.bind, Except.bind, ok]

theorem bind_of_error {first : Meaning α} {next : α → Meaning β} {error : EvalError}
    (failed : first effects = .error error) : (first >>= next) effects = .error error := by
  simp [Bind.bind, StateT.bind, Except.bind, failed]

theorem bind_eq_ok {first : Meaning α} {next : α → Meaning β} {result : β}
    (ok : (first >>= next) effects = .ok (result, last)) :
    ∃ value later, first effects = .ok (value, later) ∧ next value later = .ok (result, last) := by
  obtain ⟨⟨value, later⟩, ok, continues⟩ := bind_eq_ok_iff.mp ok
  exact ⟨value, later, ok, continues⟩

theorem asValue_eq_ok {operand : Operand} {value : Value}
    (ok : asValue operand effects = .ok (value, later)) :
    operand = .value value ∧ effects = later := by
  obtain ⟨value, checked, ok⟩ := bind_eq_ok_iff.mp ok
  obtain ⟨rfl, rfl⟩ := Prod.mk.inj (Except.ok.inj ok)
  exact ⟨Operand.asValue_eq_ok_iff.mp checked, rfl⟩

theorem asValue_of_ok {operand : Operand} {value : Value} (ok : operand.asValue = .ok value) :
    asValue operand effects = .ok (value, effects) := by
  simp [asValue, StateT.lift, ok, Bind.bind, Except.bind, pure, Except.pure]

theorem combine_of_ok {operator : Operator} {left right : Meaning Operand}
    {leftOperand rightOperand : Operand} {leftValue rightValue : Value}
    (leftOk : left effects = .ok (leftOperand, later))
    (rightOk : right later = .ok (rightOperand, last))
    (leftIs : leftOperand.asValue = .ok leftValue)
    (rightIs : rightOperand.asValue = .ok rightValue) :
    combine operator left right effects =
      .ok (.value (operator.apply leftValue rightValue), last) := by
  rw [combine, bind_of_ok leftOk, bind_of_ok rightOk, bind_of_ok (asValue_of_ok leftIs),
    bind_of_ok (asValue_of_ok rightIs)]
  rfl

theorem called_of_ok {scope : Scope} {name : String} {builtin : Builtin}
    {operands : List Operand} {result : Operand} (known : Builtin.lookup? name = some builtin)
    (ok : builtin.call scope.noise operands effects = .ok (result, later)) :
    called scope name operands effects = .ok (result, later) := by
  have allowed := Builtin.allows_of_call ok
  simp only [called, known, allowed, if_true]
  exact ok

theorem combine_eq_ok {operator : Operator} {left right : Meaning Operand} {result : Operand}
    (ok : combine operator left right effects = .ok (result, last)) :
    ∃ leftValue rightValue middle, left effects = .ok (.value leftValue, middle) ∧
      right middle = .ok (.value rightValue, last) ∧
      result = .value (operator.apply leftValue rightValue) := by
  obtain ⟨leftOperand, middle, leftMeans, ok⟩ := bind_eq_ok ok
  obtain ⟨rightOperand, _, rightMeans, ok⟩ := bind_eq_ok ok
  obtain ⟨leftValue, _, leftChecked, ok⟩ := bind_eq_ok ok
  obtain ⟨rfl, rfl⟩ := asValue_eq_ok leftChecked
  obtain ⟨rightValue, _, rightChecked, ok⟩ := bind_eq_ok ok
  obtain ⟨rfl, rfl⟩ := asValue_eq_ok rightChecked
  obtain ⟨rfl, rfl⟩ := Prod.mk.inj (Except.ok.inj ok)
  exact ⟨leftValue, rightValue, middle, leftMeans, rightMeans, rfl⟩

theorem not_throw_eq_ok {error : EvalError} {reached : α × Effects} :
    ¬ (throw error : Meaning α) effects = .ok reached :=
  nofun

theorem named_eq_ok {scope : Scope} {name : String} {result : Operand}
    (ok : named scope name effects = .ok (result, later)) :
    effects = later ∧
      ((∃ value, scope.bindings.get? name = some value ∧ result = .value value) ∨
        ∃ builtin, scope.bindings.get? name = none ∧ Builtin.lookup? name = some builtin ∧
          result = .function builtin) := by
  unfold named at ok
  cases bound : scope.bindings.get? name with
  | some value =>
      simp only [bound] at ok
      obtain ⟨rfl, rfl⟩ := Prod.mk.inj (Except.ok.inj ok)
      exact ⟨rfl, .inl ⟨value, rfl, rfl⟩⟩
  | none =>
      cases known : Builtin.lookup? name with
      | some builtin =>
          simp only [bound, known] at ok
          obtain ⟨rfl, rfl⟩ := Prod.mk.inj (Except.ok.inj ok)
          exact ⟨rfl, .inr ⟨builtin, rfl, rfl, rfl⟩⟩
      | none =>
          simp only [bound, known] at ok
          exact absurd ok not_throw_eq_ok

theorem called_eq_ok {scope : Scope} {name : String} {operands : List Operand} {result : Operand}
    (ok : called scope name operands effects = .ok (result, later)) :
    ∃ builtin, Builtin.lookup? name = some builtin ∧
      builtin.call scope.noise operands effects = .ok (result, later) := by
  unfold called at ok
  cases known : Builtin.lookup? name with
  | none =>
      simp only [known] at ok
      exact absurd ok not_throw_eq_ok
  | some builtin =>
      by_cases allowed : builtin.arity.allows operands.length = true
      · simp only [known, if_pos allowed] at ok
        exact ⟨builtin, rfl, ok⟩
      · simp only [known, if_neg allowed] at ok
        exact absurd ok not_throw_eq_ok

/-! ## Failures -/

theorem semantic_bind {first : Meaning α} {next : α → Meaning β}
    (semantic : ∀ effects, Semantic (first effects))
    (semanticNext : ∀ value effects, Semantic (next value effects)) (effects : Effects) :
    Semantic ((first >>= next) effects) :=
  (semantic effects).bind fun reached => semanticNext reached.1 reached.2

theorem semantic_asValue (operand : Operand) (effects : Effects) :
    Semantic (asValue operand effects) :=
  operand.semantic_asValue.bind fun value => semantic_ok (value, effects)

theorem semantic_named (scope : Scope) (name : String) (effects : Effects) :
    Semantic (named scope name effects) := by
  unfold named
  cases scope.bindings.get? name with
  | some value => exact semantic_ok _
  | none =>
      cases Builtin.lookup? name with
      | some builtin => exact semantic_ok _
      | none => exact semantic_meaningless _

theorem semantic_called (scope : Scope) (name : String) (operands : List Operand)
    (effects : Effects) : Semantic (called scope name operands effects) := by
  unfold called
  cases Builtin.lookup? name with
  | none => exact semantic_meaningless _
  | some builtin =>
      by_cases allowed : builtin.arity.allows operands.length = true
      · simp only [if_pos allowed]
        exact builtin.semantic_call scope.noise operands effects
      · simp only [if_neg allowed]
        exact semantic_meaningless _

theorem semantic_combine {operator : Operator} {left right : Meaning Operand}
    (leftSemantic : ∀ effects, Semantic (left effects))
    (rightSemantic : ∀ effects, Semantic (right effects)) (effects : Effects) :
    Semantic (combine operator left right effects) := by
  refine semantic_bind leftSemantic (fun leftOperand => ?_) effects
  refine semantic_bind rightSemantic fun rightOperand => ?_
  refine semantic_bind (semantic_asValue leftOperand) fun leftValue => ?_
  exact semantic_bind (semantic_asValue rightOperand) fun rightValue effects => semantic_ok _

end Meaning

/-- A phrase is never found to be malformed. -/
theorem Tree.semantic_meaning (scope : Scope) {category : Category} (tree : Tree category)
    (effects : Effects) : Semantic (tree.meaning scope effects) := by
  induction tree generalizing effects with
  | number | text | empty => exact semantic_ok _
  | name letters => exact Meaning.semantic_named scope _ effects
  | call letters arguments ih =>
      exact Meaning.semantic_bind ih (fun operands => Meaning.semantic_called scope _ _) effects
  | minus operand ih =>
      refine Meaning.semantic_bind ih (fun result => ?_) effects
      exact Meaning.semantic_bind (Meaning.semantic_asValue result) fun value later => semantic_ok _
  | plus _ ih | group _ ih | factor _ ih | term _ ih | filled _ ih => exact ih effects
  | multiplicative left symbol operator known right leftIh rightIh
  | additive left symbol operator known right leftIh rightIh =>
      exact Meaning.semantic_combine leftIh rightIh effects
  | last only ih => exact Meaning.semantic_bind ih (fun operand later => semantic_ok _) effects
  | more first others firstIh othersIh =>
      refine Meaning.semantic_bind firstIh (fun operand => ?_) effects
      exact Meaning.semantic_bind othersIh fun operands later => semantic_ok _

end LineCalc
