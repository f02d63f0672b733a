import LineCalc.Proofs.Grammar.Behind
import LineCalc.Proofs.Grammar.Progress
import LineCalc.Proofs.Grammar.Statement

/-!
# Going back

A statement is read from its beginning again if it turns out not to be an assignment.  To go back
there it is enough to have kept a place in the text and a count of requests: whatever has been
recorded since comes behind what had been recorded before, and is dropped.
-/

namespace LineCalc

/-- What is kept of a state in order to go back to it. -/
structure Checkpoint where
  /-- Number of characters behind the cursor. -/
  position : Nat
  /-- Number of requests to the console. -/
  recorded : Nat

namespace State

def checkpoint (state : State) : Checkpoint :=
  ⟨state.cursor.position, state.effects.events.length⟩

/-- Puts the cursor back to its place in the text, and drops the requests recorded since.  Random
numbers stay drawn. -/
def rewind (source : List Char) (saved : Checkpoint) (state : State) : State :=
  ⟨⟨saved.position, source.drop saved.position⟩,
    { state.effects with events := state.effects.events.take saved.recorded }⟩

/-- The same place, with nothing recorded. -/
def unrecorded (state : State) : State :=
  ⟨state.cursor, { state.effects with events := [] }⟩

theorem behind_unrecorded (state : State) :
    state.unrecorded.behind 0 ⟨state.effects.events, 0⟩ = state := by
  simp [unrecorded, behind, Cursor.shift, Effects.append]

end State

namespace Rule

variable {α : Type} {scope : Scope} {source : List Char} {before : State}

theorem ended_map {β : Type} (function : α → β) (rule : Rule α) (state : State) :
    (ended ((function <$> rule) state)).2 = (ended (rule state)).2 := by
  rw [map_eq_pure_bind]
  cases outcome : rule state with
  | ok result after =>
      rw [bind_of_ok outcome]
      rfl
  | error error after =>
      rw [bind_of_error outcome]
      rfl

theorem Ensues.ended_eq {places : Nat} {earlier : Effects}
    {result other : EStateM.Result EvalError State α}
    (ensues : Ensues places earlier result other) :
    (ended other).2 = (ended result).2.behind places earlier := by
  cases ensues with
  | ok _ later => exact later
  | error _ later => exact later

/-- A rule that does not look at what has been recorded. -/
def Records (rule : Rule α) : Prop :=
  ∀ state, (ended (rule state)).2.effects.events =
    state.effects.events ++ (ended (rule state.unrecorded)).2.effects.events

theorem records_of_ensues {rule : Rule α}
    (ensues : ∀ (events : List Event) (state : State),
      Ensues 0 ⟨events, 0⟩ (rule state) (rule (state.behind 0 ⟨events, 0⟩))) : Records rule := by
  intro state
  have later := (ensues state.effects.events state.unrecorded).ended_eq
  rw [state.behind_unrecorded] at later
  rw [later]
  rfl

theorem lockstep_recorded (scope : Scope) (events : List Event) :
    Lockstep scope scope (fun here there => there = here.behind 0 ⟨events, 0⟩)
      (fun error other => other = error.shift 0) := by
  have lockstep := lockstep_behind scope.bindings scope.noise 0 ⟨events, 0⟩
  rwa [scope.noise.drop_zero] at lockstep

theorem records_assignment (scope : Scope) : Records (assignment scope) :=
  records_of_ensues fun events _ => (lockstep_recorded scope events).assignment rfl

theorem records_expression (scope : Scope) : Records (expression scope) :=
  records_of_ensues fun events _ => (lockstep_recorded scope events).expression rfl

/-! ## Alternatives -/

/-- The result of the first rule if it has one.  Otherwise the state that the first rule has left is
taken back to where it started, and the second rule reads from there. -/
def rewinding (source : List Char) (first : Rule (Option α)) (second : Rule α) : Rule α :=
  fun state =>
  match first state with
  | .ok (some result) after => .ok result after
  | .ok none after | .error _ after => second (after.rewind source state.checkpoint)

/-- From the end of a rule, the state that it started from is found again. -/
theorem rewind_ended {rule : Rule α} (records : Records rule)
    (stands : before.cursor.StandsIn source) :
    (ended (rule before)).2.rewind source before.checkpoint =
      ⟨before.cursor,
        { before.effects with draws := (ended (rule before)).2.effects.draws }⟩ := by
  have kept : (ended (rule before)).2.effects.events.take before.effects.events.length =
      before.effects.events := by
    rw [records before, List.take_left]
  have place : (⟨before.cursor.position, source.drop before.cursor.position⟩ : Cursor) =
      before.cursor := by
    rw [← stands.ahead]
  rw [State.rewind, State.checkpoint, kept, place]

/-- Unless random numbers are drawn, going back is as good as not having tried. -/
theorem rewinding_eq_orElse {first : Rule (Option α)} (second : Rule α) (records : Records first)
    (stands : before.cursor.StandsIn source)
    (undrawn : (ended (first before)).2.effects.draws = before.effects.draws) :
    rewinding source first second before = orElse first second before := by
  have back := rewind_ended records stands
  rw [undrawn] at back
  unfold rewinding orElse
  cases outcome : first before with
  | error error after =>
      rw [outcome] at back
      exact congrArg second back
  | ok result after =>
      cases result with
      | some result => rfl
      | none =>
          rw [outcome] at back
          exact congrArg second back

/-! ## Statements -/

/-- Reads a statement, going back in the text if it is not an assignment. -/
def rewindingStatement (source : List Char) (scope : Scope) : Rule Statement := do
  skipBlanks
  rewinding source (assignment scope) (return .expression (← expression scope))

/-- A statement that is no assignment is the expression read from its first character, wherever that
reading ends: nothing is left of the attempt to read an assignment.  The requests recorded before
are kept, and behind them come those that the expression makes on its own.  The place and the count
kept at the beginning are enough to come back to it from the end of the attempt, so that a reading
that goes back by them is the same if it draws no random number. -/
theorem statement_leaves_no_trace (scope : Scope) (stands : before.cursor.StandsIn source)
    (unassigned : ∀ name value after,
      statement scope before ≠ .ok (.assignment name value) after) :
    let start : State := ⟨before.cursor.skipBlanks, before.effects⟩
    let attempted := (ended (assignment scope start)).2
    statement scope before = (Statement.expression <$> expression scope) start ∧
      (ended (statement scope before)).2.effects.events =
        before.effects.events ++ (ended (expression scope start.unrecorded)).2.effects.events ∧
      attempted.rewind source start.checkpoint =
        ⟨start.cursor, { start.effects with draws := attempted.effects.draws }⟩ ∧
      (attempted.effects.draws = before.effects.draws →
        rewindingStatement source scope before = statement scope before) := by
  intro start attempted
  have begins : start.cursor.StandsIn source := by
    obtain ⟨blanks, _, passes⟩ := before.cursor.exists_passes_skipBlanks
    exact passes.standsIn stands
  have refuses : ∀ result after, assignment scope start ≠ .ok (some result) after := by
    intro result after accepted
    obtain ⟨letters, _, value, _, _, _, _, rfl⟩ := assignment_eq_ok accepted
    refine unassigned (String.ofList letters.characters) value after ?_
    rw [statement, skipBlanks_bind]
    unfold orElse
    rw [show assignment scope ⟨before.cursor.skipBlanks, before.effects⟩ = _ from accepted]
  have read : statement scope before = (Statement.expression <$> expression scope) start := by
    rw [statement, skipBlanks_bind, bind_pure_comp]
    exact orElse_of_refuses refuses _
  refine ⟨read, ?_, rewind_ended (records_assignment scope) begins, fun undrawn => ?_⟩
  · rw [read, ended_map]
    exact records_expression scope start
  · rw [rewindingStatement, statement, skipBlanks_bind, skipBlanks_bind]
    exact rewinding_eq_orElse _ (records_assignment scope) begins undrawn

/-- Here the text before the statement has been read and has printed something.  The attempt prints
as well before it fails; the name of the builtin is all that is left of it. -/
theorem statement_leaves_no_trace_max :
    let before : State := ⟨⟨2, " max = 1 + print(2)".toList⟩, ⟨[.print "1"], 0⟩⟩
    let start : State := ⟨⟨3, "max = 1 + print(2)".toList⟩, ⟨[.print "1"], 0⟩⟩
    before.cursor.StandsIn "1; max = 1 + print(2)".toList ∧
      (ended (assignment ⟨Bindings.empty, fun _ => .nan⟩ start)).2.effects =
        ⟨[.print "1", .print "2"], 0⟩ ∧
      ended (rewindingStatement "1; max = 1 + print(2)".toList ⟨Bindings.empty, fun _ => .nan⟩
        before) =
        (.ok (.expression (.function .max)),
          ⟨⟨7, "= 1 + print(2)".toList⟩, ⟨[.print "1"], 0⟩⟩) := by
  intro before start
  have stands : before.cursor.StandsIn "1; max = 1 + print(2)".toList := ⟨by decide, by decide⟩
  have begins : (⟨before.cursor.skipBlanks, before.effects⟩ : State) = start := by decide
  have attempted : (ended (assignment ⟨Bindings.empty, fun _ => .nan⟩ start)).2.effects =
      ⟨[.print "1", .print "2"], 0⟩ := by decide +kernel
  have result : (ended (statement ⟨Bindings.empty, fun _ => .nan⟩ before)).1 =
      .ok (.expression (.function .max)) := by decide +kernel
  have unassigned : ∀ name value after,
      statement ⟨Bindings.empty, fun _ => .nan⟩ before ≠ .ok (.assignment name value) after := by
    intro name value after assigned
    rw [assigned] at result
    exact absurd (Except.ok.inj result) nofun
  have same := (statement_leaves_no_trace ⟨Bindings.empty, fun _ => .nan⟩ stands unassigned).2.2.2
  simp only [begins] at same
  refine ⟨stands, attempted, ?_⟩
  have undrawn : (ended (assignment ⟨Bindings.empty, fun _ => .nan⟩ start)).2.effects.draws = 0 :=
    congrArg Effects.draws attempted
  rw [same undrawn]
  decide +kernel

end Rule

end LineCalc
