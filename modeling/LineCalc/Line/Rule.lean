import LineCalc.Builtin.Call
import LineCalc.Cursor
import LineCalc.Bindings

/-!
# Rules

A rule reads part of a line and computes what it amounts to in the same pass.  It moves the cursor
and adds to the effects.  A rule that fails leaves both where it stopped.
-/

namespace LineCalc

/-- Where the reading of a line stands. -/
structure State where
  cursor : Cursor
  effects : Effects
  deriving DecidableEq

/-- What a line can refer to: the variables and the random numbers. -/
structure Scope where
  bindings : Bindings
  noise : Noise

/-- A reading of part of a line. -/
abbrev Rule := EStateM EvalError State

/-- The beginning of a line. -/
def State.start (line : String) : State :=
  ⟨Cursor.ofString line, Effects.none⟩

namespace Rule

/-- An operation of the cursor as a rule. -/
@[inline]
def move {α : Type} (operation : Cursor → α × Cursor) : Rule α := fun state =>
  let (result, cursor) := operation state.cursor
  .ok result { state with cursor }

/-- The next character. -/
@[inline]
def peek : Rule (Option Char) := fun state =>
  .ok state.cursor.peek state

/-- The number of characters read so far. -/
@[inline]
def position : Rule Nat := fun state =>
  .ok state.cursor.position state

/-- Steps over the next character. -/
@[inline]
def bump : Rule Unit :=
  move fun cursor => ((), cursor.bump.2)

/-- Steps over the next character if it is the expected one. -/
@[inline]
def eat (expected : Char) : Rule Bool :=
  move (·.eat expected)

/-- Steps over the longest run of wanted characters. -/
@[inline]
def takeWhile (wanted : Char → Bool) : Rule (List Char) :=
  move (·.takeWhile wanted)

/-- Steps over blanks. -/
@[inline]
def skipBlanks : Rule Unit :=
  move fun cursor => ((), cursor.skipBlanks)

/-- Fails because the line is malformed. -/
@[inline]
def malformed {α : Type} (error : SyntaxError) : Rule α :=
  throw (.malformed error)

/-- Fails because the line cannot be evaluated. -/
@[inline]
def meaningless {α : Type} (error : SemanticError) : Rule α :=
  throw (.meaningless error)

/-- The operand as a value. -/
@[inline]
def asValue (operand : Operand) : Rule Value :=
  match operand.asValue with
  | .ok value => pure value
  | .error error => throw error

/-- Calls a builtin. -/
def call (scope : Scope) (builtin : Builtin) (arguments : List Operand) : Rule Operand :=
  fun state =>
  match builtin.call scope.noise arguments state.effects with
  | .ok (operand, effects) => .ok operand { state with effects }
  | .error error => .error error state

/-- The result of the first rule if it has one.  Otherwise the second rule reads from the same
place, as if the first one had not been tried. -/
def orElse {α : Type} (first : Rule (Option α)) (second : Rule α) : Rule α := fun state =>
  match first state with
  | .ok (some result) after => .ok result after
  | _ => second state

/-- A rule that is given the number of characters ahead of it. -/
def bounded {α : Type} (rule : Nat → Rule α) : Rule α := fun state =>
  rule state.cursor.ahead.length state

end Rule

end LineCalc
