import LineCalc.Proofs.Builtin.Call
import LineCalc.Proofs.Grammar.Meaning

/-!
# Rules that compute a meaning

A rule computes a meaning on its way from one cursor to another if it ends there with the result
and the effects that the meaning gives, and fails with the error that the meaning gives.  Such rules
are composed like their meanings; rules that only move the cursor compute nothing.
-/

namespace LineCalc

namespace Rule

/-- From one cursor to the other, the rule does what the meaning tells. -/
def Computes {α : Type} (rule : Rule α) (before after : Cursor) (meaning : Meaning α) : Prop :=
  ∀ effects,
    match meaning effects with
    | .ok (result, later) => rule ⟨before, effects⟩ = .ok result ⟨after, later⟩
    | .error error => ∃ state, rule ⟨before, effects⟩ = .error error state

variable {α β : Type} {before middle after : Cursor}

namespace Computes

variable {rule : Rule α} {meaning : Meaning α} {effects later : Effects}

theorem eq_ok (computes : rule.Computes before after meaning) {result : α}
    (means : meaning effects = .ok (result, later)) :
    rule ⟨before, effects⟩ = .ok result ⟨after, later⟩ := by
  have here := computes effects
  rwa [means] at here

theorem eq_error (computes : rule.Computes before after meaning) {error : EvalError}
    (fails : meaning effects = .error error) :
    ∃ state, rule ⟨before, effects⟩ = .error error state := by
  have here := computes effects
  rwa [fails] at here

theorem of_eq_ok (computes : rule.Computes before after meaning) {result : α} {state : State}
    (accepted : rule ⟨before, effects⟩ = .ok result state) :
    meaning effects = .ok (result, state.effects) := by
  cases outcome : meaning effects with
  | ok reached =>
      rw [computes.eq_ok outcome] at accepted
      obtain ⟨rfl, rfl⟩ := EStateM.Result.ok.inj accepted
      rfl
  | error error =>
      obtain ⟨stopped, failed⟩ := computes.eq_error outcome
      rw [failed] at accepted
      exact absurd accepted (by simp)

end Computes

theorem computes_pure (cursor : Cursor) (result : α) :
    (pure result : Rule α).Computes cursor cursor (pure result) :=
  fun _ => rfl

theorem computes_throw (cursor other : Cursor) (error : EvalError) :
    (throw error : Rule α).Computes cursor other (throw error) :=
  fun _ => ⟨_, rfl⟩

/-- Two computations, one after the other. -/
theorem Computes.bind {first : Rule α} {firstMeaning : Meaning α} {second : α → Rule β}
    {secondMeaning : α → Meaning β} (computes : first.Computes before middle firstMeaning)
    (next : ∀ result, (second result).Computes middle after (secondMeaning result)) :
    (first >>= second).Computes before after (firstMeaning >>= secondMeaning) := by
  intro effects
  cases outcome : firstMeaning effects with
  | error error =>
      obtain ⟨state, failed⟩ := computes.eq_error outcome
      have meaning_fails : (firstMeaning >>= secondMeaning) effects = .error error := by
        simp [Bind.bind, StateT.bind, Except.bind, outcome]
      rw [meaning_fails]
      exact ⟨state, by simp [Bind.bind, EStateM.bind, failed]⟩
  | ok reached =>
      obtain ⟨result, later⟩ := reached
      have here := computes.eq_ok outcome
      have meaning_continues :
          (firstMeaning >>= secondMeaning) effects = secondMeaning result later := by
        simp [Bind.bind, StateT.bind, Except.bind, outcome]
      have rule_continues :
          (first >>= second) ⟨before, effects⟩ = second result ⟨middle, later⟩ := by
        simp [Bind.bind, EStateM.bind, here]
      rw [meaning_continues, rule_continues]
      exact next result later

/-- A step that computes nothing but a result for the rest of the rule. -/
theorem Computes.followed {first : Rule α} {result : α} {second : α → Rule β}
    {meaning : Meaning β} (step : first.Computes before middle (pure result))
    (rest : (second result).Computes middle after meaning) :
    (first >>= second).Computes before after meaning := by
  intro effects
  have here : first ⟨before, effects⟩ = .ok result ⟨middle, effects⟩ := step effects
  have continues :
      (first >>= second) ⟨before, effects⟩ = second result ⟨middle, effects⟩ := by
    simp [Bind.bind, EStateM.bind, here]
  rw [continues]
  exact rest effects

/-- Steps behind a computation that keep its result. -/
theorem Computes.through {rule : Rule α} {meaning : Meaning α} {steps : α → Rule α}
    (computes : rule.Computes before middle meaning)
    (keep : ∀ result, (steps result).Computes middle after (pure result)) :
    (rule >>= steps).Computes before after meaning := by
  have composed := computes.bind keep
  rwa [bind_pure] at composed

/-! ## Moving the cursor -/

theorem computes_peek (cursor : Cursor) : peek.Computes cursor cursor (pure cursor.peek) :=
  fun _ => rfl

theorem computes_position (cursor : Cursor) :
    position.Computes cursor cursor (pure cursor.position) :=
  fun _ => rfl

theorem computes_move {operation : Cursor → α × Cursor} {result : α}
    (moved : operation before = (result, after)) :
    (move operation).Computes before after (pure result) := by
  intro effects
  change (move operation) ⟨before, effects⟩ = .ok result ⟨after, effects⟩
  simp [move, moved]

theorem computes_skipBlanks (cursor : Cursor) :
    skipBlanks.Computes cursor cursor.skipBlanks (pure ()) :=
  computes_move rfl

theorem computes_bump {character : Char} (passes : before.Passes [character] after) :
    bump.Computes before after (pure ()) :=
  computes_move (by rw [Cursor.bump_of_passes passes])

theorem computes_eat {character : Char} (passes : before.Passes [character] after) :
    (eat character).Computes before after (pure true) :=
  computes_move (Cursor.eat_of_passes passes)

theorem computes_eat_of_ne {cursor : Cursor} {expected : Char}
    (other : cursor.peek ≠ some expected) :
    (eat expected).Computes cursor cursor (pure false) :=
  computes_move (Cursor.eat_of_ne other)

theorem computes_takeWhile {wanted : Char → Bool} {text : List Char}
    (passes : before.Passes text after) (all : ∀ character ∈ text, wanted character = true)
    (stops : after.Stops wanted) : (takeWhile wanted).Computes before after (pure text) :=
  computes_move (Cursor.takeWhile_of_passes passes all stops)

/-! ## Operands, names and calls -/

theorem computes_asValue (cursor : Cursor) (operand : Operand) :
    (asValue operand).Computes cursor cursor (Meaning.asValue operand) := by
  intro effects
  cases operand with
  | value content => rfl
  | function builtin => exact ⟨_, rfl⟩
  | nothing builtin => exact ⟨_, rfl⟩

theorem computes_call (scope : Scope) (cursor : Cursor) (builtin : Builtin)
    (operands : List Operand) :
    (call scope builtin operands).Computes cursor cursor
      (builtin.call scope.noise operands) := by
  intro effects
  cases outcome : builtin.call scope.noise operands effects with
  | error error => exact ⟨⟨cursor, effects⟩, by simp [call, outcome]⟩
  | ok reached => simp [call, outcome]

theorem computes_named (scope : Scope) (cursor : Cursor) (name : String) :
    (named scope name).Computes cursor cursor (Meaning.named scope name) := by
  unfold named Meaning.named
  cases scope.bindings.get? name with
  | some value => exact computes_pure cursor _
  | none =>
      cases Builtin.lookup? name with
      | some builtin => exact computes_pure cursor _
      | none => exact computes_throw cursor cursor _

/-- The arity is checked before the call, which would refuse the arguments with the same error. -/
theorem computes_called (scope : Scope) (cursor : Cursor) (name : String)
    (operands : List Operand) :
    (match Builtin.lookup? name with
      | some builtin => call scope builtin operands
      | none => meaningless (.unknownFunction name) : Rule Operand).Computes cursor cursor
        (Meaning.called scope name operands) := by
  unfold Meaning.called
  cases Builtin.lookup? name with
  | none => exact computes_throw cursor cursor _
  | some builtin =>
      have calls := computes_call scope cursor builtin operands
      cases allowed : builtin.arity.allows operands.length with
      | true => simpa [allowed] using calls
      | false =>
          have refused : builtin.call scope.noise operands = (throw (.meaningless
              (.argumentCountMismatch builtin.name builtin.arity operands.length)) :
              Meaning Operand) := by
            funext effects
            exact Builtin.call_of_not_allowed allowed
          simpa [allowed, refused] using calls

end Rule

end LineCalc
