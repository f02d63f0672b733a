import LineCalc.Proofs.Passage

/-!
# Steps of a rule

How a rule goes on after its first step: the state that the rest of the rule starts from, and the
passage that the cursor has made by then.
-/

namespace LineCalc.Rule

variable {α β : Type} {state after : State} {result : β}

/-! ## Results -/

theorem bind_eq_ok {first : Rule α} {next : α → Rule β}
    (accepted : (first >>= next) state = .ok result after) :
    ∃ value middle, first state = .ok value middle ∧ next value middle = .ok result after := by
  cases outcome : first state with
  | ok value middle =>
      refine ⟨value, middle, rfl, ?_⟩
      simpa [Bind.bind, EStateM.bind, outcome] using accepted
  | error error middle => simp [Bind.bind, EStateM.bind, outcome] at accepted

theorem bind_of_ok {first : Rule α} {value : α} {middle : State}
    (ok : first state = .ok value middle) (next : α → Rule β) :
    (first >>= next) state = next value middle := by
  simp [Bind.bind, EStateM.bind, ok]

theorem bind_of_error {first : Rule α} {error : EvalError} {middle : State}
    (failed : first state = .error error middle) (next : α → Rule β) :
    (first >>= next) state = .error error middle := by
  simp [Bind.bind, EStateM.bind, failed]

theorem pure_eq_ok {value : β} (accepted : (pure value : Rule β) state = .ok result after) :
    value = result ∧ state = after := by
  simpa [pure, EStateM.pure] using accepted

theorem not_throw_eq_ok {error : EvalError} :
    ¬ (throw error : Rule β) state = .ok result after :=
  nofun

theorem not_pure_eq_error {error : EvalError} :
    ¬ (pure result : Rule β) state = .error error after :=
  nofun

theorem asValue_eq_ok {operand : Operand} {value : Value}
    (accepted : asValue operand state = .ok value after) :
    operand.asValue = .ok value ∧ state = after := by
  cases operand with
  | value content => simpa [asValue, Operand.asValue, pure, EStateM.pure] using accepted
  | function builtin => exact absurd accepted not_throw_eq_ok
  | nothing builtin => exact absurd accepted not_throw_eq_ok

theorem call_eq_ok {scope : Scope} {builtin : Builtin} {arguments : List Operand}
    {operand : Operand} (accepted : call scope builtin arguments state = .ok operand after) :
    after.cursor = state.cursor ∧
      builtin.call scope.noise arguments state.effects = .ok (operand, after.effects) := by
  cases outcome : builtin.call scope.noise arguments state.effects with
  | error error => simp [call, outcome] at accepted
  | ok reached =>
      simp only [call, outcome, EStateM.Result.ok.injEq] at accepted
      obtain ⟨rfl, rfl⟩ := accepted
      exact ⟨rfl, rfl⟩

/-! ## Moving the cursor -/

theorem peek_bind (next : Option Char → Rule β) (state : State) :
    (peek >>= next) state = next state.cursor.peek state :=
  rfl

theorem position_bind (next : Nat → Rule β) (state : State) :
    (position >>= next) state = next state.cursor.position state :=
  rfl

theorem skipBlanks_bind (next : Unit → Rule β) (state : State) :
    (skipBlanks >>= next) state = next () ⟨state.cursor.skipBlanks, state.effects⟩ :=
  rfl

theorem bump_bind {character : Char} (found : state.cursor.peek = some character)
    (next : Unit → Rule β) :
    ∃ cursor, state.cursor.Passes [character] cursor ∧
      (bump >>= next) state = next () ⟨cursor, state.effects⟩ :=
  ⟨state.cursor.bump.2, Cursor.passes_bump found, rfl⟩

theorem takeWhile_bind (wanted : Char → Bool) (next : List Char → Rule β) (state : State) :
    ∃ text cursor, state.cursor.Passes text cursor ∧
      (∀ character ∈ text, wanted character = true) ∧ cursor.Stops wanted ∧
      (takeWhile wanted >>= next) state = next text ⟨cursor, state.effects⟩ :=
  ⟨_, _, state.cursor.passes_takeWhile wanted, fun _ => Cursor.wanted_of_mem_takeWhile,
    state.cursor.stops_takeWhile wanted, rfl⟩

theorem takeWhile_eq_ok {wanted : Char → Bool} {text : List Char}
    (accepted : takeWhile wanted state = .ok text after) :
    state.cursor.Passes text after.cursor ∧ (∀ character ∈ text, wanted character = true) ∧
      after.cursor.Stops wanted ∧ after.effects = state.effects := by
  obtain ⟨taken, cursor, passes, all, stops, stepped⟩ := takeWhile_bind wanted pure state
  rw [bind_pure, accepted] at stepped
  obtain ⟨rfl, rfl⟩ := pure_eq_ok stepped.symm
  exact ⟨passes, all, stops, rfl⟩

theorem eat_bind (expected : Char) (next : Bool → Rule β) (state : State) :
    (∃ cursor, state.cursor.Passes [expected] cursor ∧
        (eat expected >>= next) state = next true ⟨cursor, state.effects⟩) ∨
      state.cursor.peek ≠ some expected ∧ (eat expected >>= next) state = next false state := by
  have stepped : (eat expected >>= next) state =
      next (state.cursor.eat expected).1 ⟨(state.cursor.eat expected).2, state.effects⟩ := rfl
  by_cases found : state.cursor.peek = some expected
  · have passes := Cursor.passes_bump found
    rw [Cursor.eat_of_passes passes] at stepped
    exact .inl ⟨_, passes, stepped⟩
  · rw [Cursor.eat_of_ne found] at stepped
    exact .inr ⟨found, stepped⟩

end LineCalc.Rule
