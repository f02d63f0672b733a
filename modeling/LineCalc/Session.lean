import LineCalc.Line.Statement

/-!
# Sessions

A session keeps the variables from line to line.  A line that fails leaves them as they were and
asks nothing of the console.
-/

namespace LineCalc

/-- What is kept between lines. -/
structure Session where
  bindings : Bindings
  deriving DecidableEq

/-- What a line comes to. -/
structure Evaluation where
  /-- An error, a value, or neither for a line that only speaks to the console. -/
  result : Except EvalError (Option Value)
  /-- Requests to the console. -/
  events : List Event
  /-- The session after the line. -/
  session : Session

namespace Session

/-- A session without variables. -/
def fresh : Session :=
  ⟨Bindings.empty⟩

/-- The value of a variable. -/
def get? (session : Session) (name : String) : Option Value :=
  session.bindings.get? name

/-- The session in which a name has a value. -/
def assign (session : Session) (name : String) (value : Value) : Session :=
  ⟨session.bindings.insert name value⟩

/-- The value of a line that amounts to an operand; an empty result is no value. -/
def outcome : Operand → Except EvalError (Option Value)
  | .nothing _ => return none
  | operand => some <$> operand.asValue

/-- Evaluates a line. -/
def evaluate (noise : Noise) (session : Session) (line : String) : Evaluation :=
  match Rule.line ⟨session.bindings, noise⟩ (State.start line) with
  | .error error _ => ⟨.error error, [], session⟩
  | .ok (.assignment name value) state =>
      ⟨.ok (some value), state.effects.events, session.assign name value⟩
  | .ok (.expression operand) state =>
      match outcome operand with
      | .ok result => ⟨.ok result, state.effects.events, session⟩
      | .error error => ⟨.error error, [], session⟩

end Session

end LineCalc
