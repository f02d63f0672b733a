import LineCalc.Proofs.Grammar.Line

/-!
# Attempts that fail

A line that begins with a name and an equals sign is an assignment or nothing.  If no value can be
read behind the sign, the line is read again as an expression; that reading cannot get beyond the
name, so that its error tells nothing about what follows the sign.
-/

namespace LineCalc

namespace Cursor

variable {before after : Cursor} {text : List Char}

/-- A cursor that came from the beginning of a line has the rest of the line ahead. -/
theorem Passes.ahead_eq_drop {line : String} (passes : (ofString line).Passes text after) :
    after.ahead = line.toList.drop after.position := by
  have written : line.toList = text ++ after.ahead := passes.ahead
  have reached : after.position = text.length := by simpa [ofString] using passes.position
  rw [written, reached, List.drop_left]

theorem Spells.exists_passes {tokens : List Token} (spells : before.Spells tokens after) :
    ∃ text, before.Passes text after :=
  let ⟨text, _, passes⟩ := spells
  ⟨text, passes⟩

/-- Before the first character that is not blank, blanks are stepped over. -/
theorem skipBlanks_of_ahead {cursor : Cursor} {blanks others : List Char} {found : Char}
    (ahead : cursor.ahead = blanks ++ found :: others) (blank : Blank blanks)
    (visible : Text.isBlank found = false) :
    cursor.skipBlanks = ⟨cursor.position + blanks.length, found :: others⟩ := by
  exact skipBlanks_of_passes ⟨ahead, rfl⟩ blank (stops_of_peek rfl visible)

end Cursor

namespace Meaning

variable {scope : Scope} {name : String}

theorem named_of_free (unbound : scope.bindings.get? name = none)
    (unknown : Builtin.lookup? name = none) (effects : Effects) :
    named scope name effects = .error (.meaningless (.unknownIdentifier name)) := by
  simp only [named, unbound, unknown]
  rfl

theorem exists_named
    (known : ¬ (scope.bindings.get? name = none ∧ Builtin.lookup? name = none))
    (effects : Effects) :
    ∃ operand, named scope name effects = .ok (operand, effects) := by
  unfold named
  cases bound : scope.bindings.get? name with
  | some value => exact ⟨.value value, rfl⟩
  | none =>
      cases found : Builtin.lookup? name with
      | some builtin => exact ⟨.function builtin, rfl⟩
      | none => exact absurd ⟨bound, found⟩ known

end Meaning

namespace Rule

variable {scope : Scope} {letters : Run isNameChar} {before behind start : Cursor}

/-- An expression that begins with a name before an equals sign ends with the name. -/
theorem computes_expression_name (scope : Scope)
    (named : before.skipBlanks.Passes letters.characters behind)
    (equals : behind.skipBlanks.Passes ['='] start) :
    (expression scope).Computes before behind.skipBlanks
      (Meaning.named scope (String.ofList letters.characters)) := by
  let tree : Tree .expression := .term (.factor (.name letters))
  have spells : before.Spells tree.tokens behind :=
    .behind (.skipBlanks before) (.exact named)
  have ends : behind.Ends Category.expression.closers := .of_passes equals (by decide)
  exact (reads scope tree).computes_expression (Nat.le_refl _) spells ends

/-- The error of a line whose name is followed by an equals sign at the position, when read as an
expression. -/
def refusal (scope : Scope) (name : String) (equals : Nat) : EvalError :=
  if scope.bindings.get? name = none ∧ Builtin.lookup? name = none then
    .meaningless (.unknownIdentifier name)
  else
    .malformed (.unexpectedCharacter '=' equals)

/-- Whatever is left of a line, blanks apart, is not expected there. -/
theorem lineEnd_of_peek (state : State) {found : Char}
    (left : state.cursor.skipBlanks.peek = some found) :
    ∃ stopped, lineEnd state = .error
      (.malformed (.unexpectedCharacter found state.cursor.skipBlanks.position)) stopped := by
  rw [lineEnd, skipBlanks_bind, peek_bind, left]
  exact ⟨_, rfl⟩

section Line

variable {line : String}

theorem outcome_of_lineEnd_ok {result : Statement} {after stopped : State}
    (stated : statement scope (State.start line) = .ok result after)
    (ended : lineEnd after = .ok () stopped) :
    (Rule.line scope).outcome line = .ok (result, after.effects) := by
  have same := (lineEnd_eq_ok ended).2
  rw [outcome, Rule.line, bind_of_ok stated, bind_of_ok ended]
  exact congrArg (fun effects => Except.ok (result, effects)) same

theorem outcome_of_lineEnd_error {result : Statement} {after stopped : State} {error : EvalError}
    (stated : statement scope (State.start line) = .ok result after)
    (failed : lineEnd after = .error error stopped) :
    (Rule.line scope).outcome line = .error error := by
  rw [outcome, Rule.line, bind_of_ok stated, bind_of_error failed]

theorem outcome_of_statement_error {stopped : State} {error : EvalError}
    (failed : statement scope (State.start line) = .error error stopped) :
    (Rule.line scope).outcome line = .error error := by
  rw [outcome, Rule.line, bind_of_error failed]

/-- Without a value behind the equals sign, the line is read up to its name. -/
theorem outcome_of_refused
    (named : (Cursor.ofString line).skipBlanks.Passes letters.characters behind)
    (equals : behind.skipBlanks.Passes ['='] start)
    (refused : ∀ result after, assignment scope
      ⟨(Cursor.ofString line).skipBlanks, Effects.none⟩ ≠ .ok (some result) after) :
    (Rule.line scope).outcome line = .error
      (refusal scope (String.ofList letters.characters) behind.skipBlanks.position) := by
  have again : statement scope (State.start line) =
      (do return .expression (← expression scope) : Rule Statement)
        ⟨(Cursor.ofString line).skipBlanks, Effects.none⟩ := by
    rw [statement, skipBlanks_bind]
    exact orElse_of_refuses refused _
  have cleared : (Cursor.ofString line).skipBlanks.skipBlanks.Passes letters.characters behind := by
    rwa [Cursor.skipBlanks_skipBlanks]
  have computes := computes_expression_name scope cleared equals
  have left : behind.skipBlanks.skipBlanks.peek = some '=' := by
    rw [Cursor.skipBlanks_skipBlanks, Cursor.peek_of_passes equals]
  obtain ⟨stopped, unexpected⟩ := lineEnd_of_peek (⟨behind.skipBlanks, Effects.none⟩ : State) left
  rw [Cursor.skipBlanks_skipBlanks] at unexpected
  unfold refusal
  split
  · next free =>
    obtain ⟨state, failed⟩ :=
      computes.eq_error (Meaning.named_of_free free.1 free.2 Effects.none)
    exact outcome_of_statement_error (again.trans (bind_of_error failed _))
  · next known =>
    obtain ⟨operand, means⟩ := Meaning.exists_named known Effects.none
    have taken : statement scope (State.start line) =
        .ok (.expression operand) ⟨behind.skipBlanks, Effects.none⟩ := by
      rw [again, bind_of_ok (computes.eq_ok means)]
      rfl
    exact outcome_of_lineEnd_error taken unexpected

/-- A line whose value is read is an assignment if nothing but blanks is left. -/
theorem outcome_of_assigned {name : String} {value : Value} {after : State}
    (assigned : assignment scope ⟨(Cursor.ofString line).skipBlanks, Effects.none⟩ =
      .ok (some (.assignment name value)) after) :
    (after.cursor.Ends [] →
      (Rule.line scope).outcome line = .ok (.assignment name value, after.effects)) ∧
    ∀ found, after.cursor.skipBlanks.peek = some found →
      (Rule.line scope).outcome line =
        .error (.malformed (.unexpectedCharacter found after.cursor.skipBlanks.position)) := by
  have stated : statement scope (State.start line) = .ok (.assignment name value) after := by
    rw [statement, skipBlanks_bind]
    unfold orElse
    rw [State.start, assigned]
  constructor
  · intro ends
    exact outcome_of_lineEnd_ok stated ((computes_lineEnd ends).eq_ok rfl)
  · intro found left
    obtain ⟨stopped, failed⟩ := lineEnd_of_peek after left
    exact outcome_of_lineEnd_error stated failed

/-- A line that begins with a name and an equals sign is an assignment if a value can be read behind
the sign and nothing but blanks after it; what else comes after the value is not expected.  If no
value can be read, the error is that of the name, or that of the sign if the name is known, whatever
is written behind. -/
theorem outcome_of_attempt (scope : Scope)
    (announced : (Cursor.ofString line).Spells [.name letters, .symbol '='] start) :
    (∀ value after, expression scope ⟨start, Effects.none⟩ = .ok (.value value) after →
      (Blank (line.toList.drop after.cursor.position) →
        (Rule.line scope).outcome line =
          .ok (.assignment (String.ofList letters.characters) value, after.effects)) ∧
      ∀ taken found others, line.toList = taken ++ found :: others →
        after.cursor.position ≤ taken.length → Blank (taken.drop after.cursor.position) →
        Text.isBlank found = false →
        (Rule.line scope).outcome line =
          .error (.malformed (.unexpectedCharacter found taken.length))) ∧
    ((∀ value after, expression scope ⟨start, Effects.none⟩ ≠ .ok (.value value) after) →
      line.toList[start.position - 1]? = some '=' ∧
      (Rule.line scope).outcome line =
        .error (refusal scope (String.ofList letters.characters) (start.position - 1))) := by
  obtain ⟨begun, begins⟩ := announced.exists_passes
  obtain ⟨behind, named, spells⟩ := announced.divide_cons (Token.visible_name letters)
  obtain ⟨stop, equals, spells⟩ := spells.divide_cons (Token.visible_symbol (by decide))
  obtain rfl := spells.eq_of_nil
  have cleared : (Cursor.ofString line).skipBlanks.skipBlanks.Passes letters.characters behind := by
    rwa [Cursor.skipBlanks_skipBlanks]
  have attempt := assignment_eq scope Effects.none cleared equals
  have place : stop.position - 1 = behind.skipBlanks.position := by
    rw [equals.position]
    rfl
  constructor
  · intro value after read
    obtain ⟨tree, reached, spells, slides, _⟩ := expression_sound scope _ _ _ read
    obtain ⟨body, passes⟩ := spells.exists_passes
    obtain ⟨blanks, _, slid⟩ := slides
    have left : after.cursor.ahead = line.toList.drop after.cursor.position :=
      ((begins.trans passes).trans slid).ahead_eq_drop
    have assigned : assignment scope ⟨(Cursor.ofString line).skipBlanks, Effects.none⟩ =
        .ok (some (.assignment (String.ofList letters.characters) value)) after := by
      rw [attempt, bind_of_ok read]
      rfl
    obtain ⟨accepts, rejects⟩ := outcome_of_assigned assigned
    refine ⟨fun blank => accepts (Cursor.ends_nil_iff.mpr (left ▸ blank)), ?_⟩
    intro taken found others written behindValue blank visible
    have ahead : after.cursor.ahead = taken.drop after.cursor.position ++ found :: others := by
      rw [left, written, List.drop_append_of_le_length behindValue]
    have stands := Cursor.skipBlanks_of_ahead ahead blank visible
    have unexpected := rejects found (by rw [stands]; rfl)
    rw [unexpected, stands, List.length_drop, Nat.add_sub_cancel' behindValue]
  · intro valueless
    rw [place]
    constructor
    · obtain ⟨blanks, _, skipped⟩ := (Cursor.ofString line).exists_passes_skipBlanks
      obtain ⟨gap, _, slid⟩ := behind.exists_passes_skipBlanks
      have whole := (skipped.trans named).trans slid
      rw [← List.head?_drop, ← whole.ahead_eq_drop]
      exact Cursor.peek_of_passes equals
    · refine outcome_of_refused named equals fun result after accepted => ?_
      rw [attempt] at accepted
      obtain ⟨operand, reached, read, accepted⟩ := bind_eq_ok accepted
      obtain ⟨value, _, checked, _⟩ := bind_eq_ok accepted
      obtain ⟨isValue, _⟩ := asValue_eq_ok checked
      obtain rfl := Operand.asValue_eq_ok_iff.mp isValue
      exact valueless value reached read

/-- Here the right-hand side has been printed by the time it turns out to have no value; the name of
the builtin is known, so that the sign is what is not expected. -/
theorem outcome_equals_print :
    (Rule.line ⟨Bindings.empty, fun _ => .nan⟩).outcome " max = 1 + print(2)" =
      .error (.malformed (.unexpectedCharacter '=' 5)) := by
  let name : Run isNameChar := ⟨"max".toList, by decide, forall_mem_of_all (by decide)⟩
  have spelled : Spelled [.name name, .symbol '=']
      ([' '] ++ "max".toList ++ ([' '] ++ ['='] ++ [])) :=
    .cons (.name name) (by decide) (.cons (.symbol '=') (by decide) .nil)
  have announced : (Cursor.ofString " max = 1 + print(2)").Spells [.name name, .symbol '=']
      ⟨6, " 1 + print(2)".toList⟩ := ⟨_, spelled, by decide, rfl⟩
  have valueless : (expression ⟨Bindings.empty, fun _ => .nan⟩).run'
      ⟨⟨6, " 1 + print(2)".toList⟩, Effects.none⟩ = none := by decide +kernel
  have attempt := (outcome_of_attempt ⟨Bindings.empty, fun _ => .nan⟩ announced).2
    fun value after valued => by
      delta EStateM.run' EStateM.run at valueless
      rw [valued] at valueless
      exact absurd valueless (by simp)
  rw [attempt.2]
  decide +kernel

end Line

end Rule

end LineCalc
