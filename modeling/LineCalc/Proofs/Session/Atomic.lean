import LineCalc.Proofs.Bindings
import LineCalc.Proofs.Grammar.Evaluation
import LineCalc.Proofs.Grammar.Line
import LineCalc.Session

/-!
# Lines take effect as a whole

A line that fails changes nothing and asks nothing of the console, however far it was evaluated.  A
line that succeeds asks for what the calls of its reading ask for, and assigns to one name at most.
-/

namespace LineCalc

/-- The line is read as the statement, and its evaluation makes the calls. -/
inductive Reading (scope : Scope) (line : String) : Statement → List Call → Prop
  | expression {operand : Operand} {calls : List Call} {effects : Effects}
      (tree : Tree .expression) :
      tree.Derives line → Evaluates scope tree Effects.none calls operand effects →
      Reading scope line (.expression operand) calls
  | assignment {value : Value} {calls : List Call} {effects : Effects}
      (letters : Run isNameChar) (tree : Tree .expression) :
      tree.DerivesAssignment letters line →
      Evaluates scope tree Effects.none calls (.value value) effects →
      Reading scope line (.assignment (String.ofList letters.characters) value) calls

theorem Tells.exists_reading {scope : Scope} {line : String} {statement : Statement}
    {effects : Effects} (tells : Tells scope line statement effects) :
    ∃ calls, Reading scope line statement calls := by
  cases tells with
  | expression tree derives meaning =>
      obtain ⟨calls, evaluates⟩ := Tree.exists_evaluates meaning
      exact ⟨calls, .expression tree derives evaluates⟩
  | assignment letters tree derives meaning =>
      obtain ⟨calls, evaluates⟩ := Tree.exists_evaluates meaning
      exact ⟨calls, .assignment letters tree derives evaluates⟩

theorem Reading.exists_tells {scope : Scope} {line : String} {statement : Statement}
    {calls : List Call} (reads : Reading scope line statement calls) :
    ∃ effects, Tells scope line statement effects ∧
      effects.events = calls.flatMap Call.events := by
  cases reads with
  | expression tree derives evaluates =>
      exact ⟨_, .expression tree derives evaluates.meaning, evaluates.events⟩
  | assignment letters tree derives evaluates =>
      exact ⟨_, .assignment letters tree derives evaluates.meaning, evaluates.events⟩

namespace Session

variable {noise : Noise} {session : Session} {line : String}

/-- What a line comes to that is read as the statement, if its calls ask for the events. -/
def accepted (session : Session) (events : List Event) : Statement → Evaluation
  | .assignment name value => ⟨.ok (some value), events, session.assign name value⟩
  | .expression operand =>
      match outcome operand with
      | .ok result => ⟨.ok result, events, session⟩
      | .error error => ⟨.error error, [], session⟩

/-- What a line comes to is determined by what it is taken for. -/
theorem evaluate_eq (noise : Noise) (session : Session) (line : String) :
    session.evaluate noise line =
      match (Rule.line ⟨session.bindings, noise⟩).outcome line with
      | .ok (statement, effects) => session.accepted effects.events statement
      | .error error => ⟨.error error, [], session⟩ := by
  unfold evaluate Rule.outcome
  generalize Rule.line ⟨session.bindings, noise⟩ (State.start line) = result
  cases result with
  | error error state => rfl
  | ok statement state => cases statement <;> rfl

theorem evaluate_of_reading {statement : Statement} {calls : List Call}
    (reads : Reading ⟨session.bindings, noise⟩ line statement calls) :
    session.evaluate noise line = session.accepted (calls.flatMap Call.events) statement := by
  obtain ⟨effects, tells, asked⟩ := reads.exists_tells
  rw [evaluate_eq, outcome_eq_ok_iff.mpr tells, ← asked]

/-- The three ways in which the evaluation of a line can go. -/
theorem evaluate_cases (noise : Noise) (session : Session) (line : String) :
    (∃ error, session.evaluate noise line = ⟨.error error, [], session⟩) ∨
    (∃ operand calls result,
      Reading ⟨session.bindings, noise⟩ line (.expression operand) calls ∧
      outcome operand = .ok result ∧
      session.evaluate noise line = ⟨.ok result, calls.flatMap Call.events, session⟩) ∨
    ∃ name value calls,
      Reading ⟨session.bindings, noise⟩ line (.assignment name value) calls ∧
      session.evaluate noise line =
        ⟨.ok (some value), calls.flatMap Call.events, session.assign name value⟩ := by
  cases read : (Rule.line ⟨session.bindings, noise⟩).outcome line with
  | error error =>
      exact .inl ⟨error, by rw [evaluate_eq, read]⟩
  | ok reached =>
      obtain ⟨statement, effects⟩ := reached
      obtain ⟨calls, reads⟩ := (Rule.tells_of_outcome read).exists_reading
      have evaluated := evaluate_of_reading reads
      cases statement with
      | assignment name value => exact .inr (.inr ⟨name, value, calls, reads, evaluated⟩)
      | expression operand =>
          cases shown : outcome operand with
          | error error => exact .inl ⟨error, by simpa only [accepted, shown] using evaluated⟩
          | ok result =>
              exact .inr (.inl ⟨operand, calls, result, reads, shown,
                by simpa only [accepted, shown] using evaluated⟩)

theorem exists_reading {result : Option Value}
    (ok : (session.evaluate noise line).result = .ok result) :
    ∃ statement calls, Reading ⟨session.bindings, noise⟩ line statement calls := by
  rcases evaluate_cases noise session line with ⟨error, evaluated⟩ |
    ⟨operand, calls, _, reads, _⟩ | ⟨name, value, calls, reads, _⟩
  · rw [evaluated] at ok
    exact absurd ok (by simp)
  · exact ⟨_, calls, reads⟩
  · exact ⟨_, calls, reads⟩

/-- A line that fails leaves the variables alone and asks nothing of the console.  Otherwise the
console is asked for what the calls of the reading ask for, in their order, and the variables stay
as they were but for the assigned one. -/
theorem evaluate_atomic (noise : Noise) (session : Session) (line : String) :
    match (session.evaluate noise line).result with
    | .error _ =>
        (session.evaluate noise line).events = [] ∧
          (session.evaluate noise line).session = session
    | .ok result =>
        ∃ statement calls, Reading ⟨session.bindings, noise⟩ line statement calls ∧
          (session.evaluate noise line).events = calls.flatMap Call.events ∧
          match statement with
          | .expression operand =>
              outcome operand = .ok result ∧ (session.evaluate noise line).session = session
          | .assignment name value =>
              result = some value ∧
                ∀ other, (session.evaluate noise line).session.get? other =
                  if other = name then some value else session.get? other := by
  rcases evaluate_cases noise session line with ⟨error, evaluated⟩ |
    ⟨operand, calls, result, reads, shown, evaluated⟩ | ⟨name, value, calls, reads, evaluated⟩
  · rw [evaluated]
    exact ⟨rfl, rfl⟩
  · rw [evaluated]
    exact ⟨.expression operand, calls, reads, rfl, shown, rfl⟩
  · rw [evaluated]
    exact ⟨.assignment name value, calls, reads, rfl, rfl, fun other =>
      session.bindings.get?_insert name other value⟩

end Session

end LineCalc
