import LineCalc.Proofs.Grammar.Rewinding

/-!
# Readings afresh

A rule goes by the text ahead alone.  In the middle of a text it comes to what it comes to at the
beginning of a text that is what is ahead; places are counted on, and requests to the console come
behind those made before.  This holds of readings that go back in the text as well, whose
checkpoints count from the beginning of the whole text and of all requests.
-/

namespace LineCalc

/-- The scope with the random numbers that are left when something has been done. -/
def Scope.after (scope : Scope) (effects : Effects) : Scope :=
  ⟨scope.bindings, scope.noise.drop effects.draws⟩

/-- If no random number has been drawn, all are left. -/
theorem Scope.after_of_undrawn (scope : Scope) {effects : Effects} (undrawn : effects.draws = 0) :
    scope.after effects = scope := by
  rw [after, undrawn, scope.noise.drop_zero]

namespace State

variable {source : List Char} {before : State}

/-- A state in a text comes behind the text read so far and what has been done by then. -/
theorem eq_behind_start (stands : before.cursor.StandsIn source) :
    before = (start (String.ofList (source.drop before.cursor.position))).behind
      before.cursor.position before.effects := by
  obtain ⟨⟨position, ahead⟩, ⟨events, draws⟩⟩ := before
  obtain rfl : ahead = source.drop position := stands.ahead
  simp [start, behind, Cursor.ofString, Cursor.shift, Effects.none, Effects.append]

/-- Going back in the whole text is going back in the rest of it. -/
theorem rewind_behind (source : List Char) (state saved : State) (places : Nat)
    (earlier : Effects) :
    (state.behind places earlier).rewind source (saved.behind places earlier).checkpoint =
      (state.rewind (source.drop places) saved.checkpoint).behind places earlier := by
  simp [rewind, checkpoint, behind, Cursor.shift, Effects.append, List.drop_drop,
    List.take_length_add_append]

end State

namespace Rule

variable {α : Type} {places : Nat} {earlier : Effects} {scope rest : Scope}
variable {source : List Char} {before : State}

/-- The end of a reading as one that has gone on from where another reading stopped. -/
def following (before : State) :
    EStateM.Result EvalError State α → EStateM.Result EvalError State α
  | .ok result after => .ok result (after.behind before.cursor.position before.effects)
  | .error error after =>
      .error (error.shift before.cursor.position)
        (after.behind before.cursor.position before.effects)

theorem eq_following {result other : EStateM.Result EvalError State α}
    (ensues : Ensues before.cursor.position before.effects result other) :
    other = following before result := by
  cases ensues with
  | ok result later => rw [later, following]
  | error shifted later => rw [shifted, later, following]

/-- Reads a line, going back in the text if it is not an assignment. -/
def rewindingLine (source : List Char) (scope : Scope) : Rule Statement := do
  let result ← rewindingStatement source scope
  lineEnd
  return result

theorem ensues_rewinding {first otherFirst : Rule (Option α)} {second otherSecond : Rule α}
    {state : State}
    (attempt : Ensues places earlier (first state) (otherFirst (state.behind places earlier)))
    (otherwise : ∀ state,
      Ensues places earlier (second state) (otherSecond (state.behind places earlier))) :
    Ensues places earlier (rewinding (source.drop places) first second state)
      (rewinding source otherFirst otherSecond (state.behind places earlier)) := by
  unfold rewinding
  generalize first state = result at attempt
  generalize otherFirst (state.behind places earlier) = other at attempt
  -- Wherever the attempts have ended, going back leads to states that correspond.
  cases attempt with
  | error _ later =>
      subst later
      simp only [State.rewind_behind]
      exact otherwise _
  | ok result later =>
      subst later
      cases result with
      | none =>
          simp only [State.rewind_behind]
          exact otherwise _
      | some found => exact .ok found rfl

section Steps

variable (lockstep : Lockstep rest scope (fun here there => there = here.behind places earlier)
  (fun error other => other = error.shift places))
include lockstep

theorem ensues_rewindingStatement (source : List Char) (state : State) :
    Ensues places earlier (rewindingStatement (source.drop places) rest state)
      (rewindingStatement source scope (state.behind places earlier)) := by
  refine (ensues_skipBlanks state).bind fun _ start _ _ _ later => later ▸ ?_
  refine ensues_rewinding (lockstep.assignment rfl) fun state => ?_
  exact (lockstep.expression rfl).bind fun operand _ _ _ _ later => .ok _ later

theorem ensues_rewindingLine (source : List Char) (state : State) :
    Ensues places earlier (rewindingLine (source.drop places) rest state)
      (rewindingLine source scope (state.behind places earlier)) := by
  refine (ensues_rewindingStatement lockstep source state).bind
    fun result after _ _ _ later => later ▸ ?_
  exact (lockstep.lineEnd rfl).bind fun _ _ _ _ _ later => .ok result later

end Steps

/-- From anywhere in a text, every rule of the grammar comes to what it comes to at the beginning of
the text ahead.  The places of the end and of a fault are counted on from there, and the requests to
the console come behind those made before.  Where random numbers have been drawn before, those that
are left are drawn. -/
theorem rules_go_by_text_ahead (scope : Scope) (stands : before.cursor.StandsIn source) :
    let ahead := source.drop before.cursor.position
    let start := State.start (String.ofList ahead)
    let rest := scope.after before.effects
    factor scope before = following before (factor rest start) ∧
      term scope before = following before (term rest start) ∧
      expression scope before = following before (expression rest start) ∧
      statement scope before = following before (statement rest start) ∧
      line scope before = following before (line rest start) ∧
      rewindingStatement source scope before =
        following before (rewindingStatement ahead rest start) ∧
      rewindingLine source scope before = following before (rewindingLine ahead rest start) ∧
      (before.effects.draws = 0 → rest = scope) := by
  intro ahead start rest
  have behind : before = start.behind before.cursor.position before.effects :=
    State.eq_behind_start stands
  have lockstep : Lockstep rest scope
      (fun here there => there = here.behind before.cursor.position before.effects)
      (fun error other => other = error.shift before.cursor.position) :=
    lockstep_behind scope.bindings scope.noise before.cursor.position before.effects
  have statements := ensues_rewindingStatement lockstep source start
  have lines := ensues_rewindingLine lockstep source start
  rw [← behind] at statements lines
  exact ⟨eq_following (lockstep.factor behind), eq_following (lockstep.term behind),
    eq_following (lockstep.expression behind), eq_following (lockstep.statement behind),
    eq_following (lockstep.line behind), eq_following statements, eq_following lines,
    scope.after_of_undrawn⟩

/-- Both calls have printed before the sign is found that cannot follow a statement.  Counted from
where the reading starts, it is the eleventh character. -/
theorem rules_go_by_text_ahead_print :
    let before : State := ⟨⟨2, " print(2) = 3".toList⟩, ⟨[.print "1"], 0⟩⟩
    before.cursor.StandsIn "1; print(2) = 3".toList ∧
      ended (rewindingLine "1; print(2) = 3".toList ⟨Bindings.empty, fun _ => .nan⟩ before) =
        (.error (.malformed (.unexpectedCharacter '=' 12)),
          ⟨⟨12, "= 3".toList⟩, ⟨[.print "1", .print "2"], 0⟩⟩) := by
  intro before
  have stands : before.cursor.StandsIn "1; print(2) = 3".toList := ⟨by decide, by decide⟩
  obtain ⟨_, _, _, _, _, _, goes, _⟩ :=
    rules_go_by_text_ahead ⟨Bindings.empty, fun _ => .nan⟩ stands
  refine ⟨stands, ?_⟩
  rw [goes]
  decide +kernel

end Rule

end LineCalc
