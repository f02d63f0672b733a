import LineCalc.Proofs.Grammar.Completeness
import LineCalc.Proofs.Grammar.Soundness

/-!
# Statements

The attempt to read an assignment succeeds exactly where one is written whose expression means a
value.  What begins like an expression is not written as an assignment, since in an expression no
name is followed by an equals sign; there the attempt leaves no trace.
-/

namespace LineCalc

namespace Meaning

/-- The statement that assigns what is meant to the name. -/
def assign (letters : Run isNameChar) (meaning : Meaning Operand) : Meaning (Option Statement) := do
  let operand ← meaning
  let value ← asValue operand
  return some (.assignment (String.ofList letters.characters) value)

variable {letters : Run isNameChar} {meaning : Meaning Operand} {before after : Effects}

theorem assign_of_ok {value : Value} (ok : meaning before = .ok (.value value, after)) :
    assign letters meaning before =
      .ok (some (.assignment (String.ofList letters.characters) value), after) := by
  rw [assign, bind_of_ok ok, bind_of_ok (asValue_of_ok rfl)]
  rfl

theorem assign_eq_ok {result : Option Statement}
    (ok : assign letters meaning before = .ok (result, after)) :
    ∃ value, result = some (.assignment (String.ofList letters.characters) value) ∧
      meaning before = .ok (.value value, after) := by
  obtain ⟨operand, _, means, ok⟩ := bind_eq_ok ok
  obtain ⟨value, _, checked, ok⟩ := bind_eq_ok ok
  obtain ⟨rfl, rfl⟩ := asValue_eq_ok checked
  obtain ⟨rfl, rfl⟩ := Prod.mk.inj (Except.ok.inj ok)
  exact ⟨value, rfl, means⟩

end Meaning

namespace Cursor

theorem Spells.peek_of_name {before after : Cursor} {tokens : List Token}
    {letters : Run isNameChar} (spells : before.Spells (.name letters :: tokens) after) :
    ∃ first, before.skipBlanks.peek = some first ∧ isNameChar first = true := by
  obtain ⟨first, _, split, letter⟩ := letters.exists_cons
  refine ⟨first, ?_, letter⟩
  rw [spells.peek_skipBlanks (Token.visible_name letters), Token.characters, split]
  rfl

/-- What begins like an expression and is followed by an end is not written as an assignment: an
equals sign would have to stand behind the same name. -/
theorem Spells.not_assignment {before after other : Cursor} {tokens others : List Token}
    {letters : Run isNameChar} (begins : Begins tokens) (spells : before.Spells tokens after)
    (ends : after.Ends []) :
    ¬ before.Spells (.name letters :: .symbol '=' :: others) other := by
  intro assigns
  have noLetter : ∀ character, before.skipBlanks.peek = some character →
      isNameChar character ≠ false := by
    obtain ⟨first, found, letter⟩ := assigns.peek_of_name
    intro character same
    rw [found, Option.some.injEq] at same
    simp [← same, letter]
  obtain ⟨behind, named, assigns⟩ := assigns.divide_cons (Token.visible_name letters)
  obtain ⟨_, equals, _⟩ := assigns.divide_cons (Token.visible_symbol (by decide))
  have behindEnds : behind.Ends ['='] := .of_passes equals (by simp)
  have sameEnd {run : Run isNameChar} {stop : Cursor} {closers : List Char}
      (passes : before.skipBlanks.Passes run.characters stop) (stopEnds : stop.Ends closers)
      (refused : ∀ character ∈ closers, isNameChar character = false) : behind = stop :=
    named.eq_of_stops passes letters.all
      (behindEnds.stops (forall_mem_of_all (by decide)) fun _ => isBlank_of_isNameChar) run.all
      (stopEnds.stops refused fun _ => isBlank_of_isNameChar)
  cases begins with
  | number whole places rest =>
      have found := spells.peek_skipBlanks (Token.visible_number whole places)
      obtain ⟨digit, _, digits, isDigit⟩ := whole.exists_cons
      refine absurd (isNameChar_of_isDigit isDigit) (noLetter digit ?_)
      cases places <;> simp [found, Token.characters, digits]
  | text content unquoted rest =>
      have found := spells.peek_skipBlanks (Token.visible_text content unquoted)
      exact absurd (by decide) (noLetter '"' found)
  | @symbol character rest opens =>
      have known : ∀ symbol ∈ ['+', '-', '('],
          Text.isBlank symbol = false ∧ isNameChar symbol = false :=
        forall_mem_of_all (by decide)
      obtain ⟨visible, refused⟩ := known character opens
      have found := spells.peek_skipBlanks (Token.visible_symbol visible)
      exact absurd refused (noLetter character found)
  | name run =>
      obtain ⟨stop, passes, spells⟩ := spells.divide_cons (Token.visible_name run)
      obtain rfl := spells.eq_of_nil
      obtain rfl := sameEnd passes ends (by simp)
      exact absurd (ends '=' (peek_of_passes equals)) (by simp)
  | @followed run character rest follows =>
      have known : ∀ symbol ∈ ['(', '*', '/', '%', '+', '-', ','],
          Text.isBlank symbol = false ∧ isNameChar symbol = false ∧ symbol ≠ '=' :=
        forall_mem_of_all (by decide)
      obtain ⟨visible, refused, other⟩ := known character follows
      obtain ⟨stop, passes, spells⟩ := spells.divide_cons (Token.visible_name run)
      obtain ⟨_, symbol, _⟩ := spells.divide_cons (Token.visible_symbol visible)
      have stopEnds : stop.Ends [character] := .of_passes symbol (by simp)
      obtain rfl := sameEnd passes stopEnds (by simpa using refused)
      have same : some character = some '=' :=
        (peek_of_passes symbol).symm.trans (peek_of_passes equals)
      exact other (Option.some.inj same)

end Cursor

namespace Rule

variable {scope : Scope} {before middle after : Cursor}

/-! ## Statements that are written -/

theorem computes_expression {tree : Tree .expression} (spells : before.Spells tree.tokens after)
    (ends : after.Ends []) :
    (expression scope).Computes before after.skipBlanks (tree.meaning scope) :=
  (reads scope tree).computes_expression (Nat.le_refl _) spells (ends.mono (by simp))

/-- The attempt to read an assignment goes on behind the equals sign. -/
theorem assignment_eq (scope : Scope) (effects : Effects) {letters : Run isNameChar}
    {behind start : Cursor} (named : before.skipBlanks.Passes letters.characters behind)
    (equals : behind.skipBlanks.Passes ['='] start) :
    assignment scope ⟨before, effects⟩ =
      (do
        let operand ← expression scope
        let value ← asValue operand
        return some (.assignment (String.ofList letters.characters) value) :
        Rule (Option Statement)) ⟨start, effects⟩ := by
  have behindEnds : behind.Ends ['='] := .of_passes equals (by simp)
  have stops : behind.Stops isNameChar :=
    behindEnds.stops (forall_mem_of_all (by decide)) fun _ => isBlank_of_isNameChar
  have read : identifier ⟨before, effects⟩ =
      .ok (String.ofList letters.characters) ⟨behind, effects⟩ :=
    (computes_identifier named stops).eq_ok rfl
  have eaten : eat '=' ⟨behind.skipBlanks, effects⟩ = .ok true ⟨start, effects⟩ :=
    (computes_eat equals).eq_ok rfl
  rw [assignment, bind_of_ok read, skipBlanks_bind, bind_of_ok eaten]
  rfl

theorem computes_assignment {letters : Run isNameChar} {tree : Tree .expression}
    (spells : before.Spells (.name letters :: .symbol '=' :: tree.tokens) after)
    (ends : after.Ends []) :
    (assignment scope).Computes before after.skipBlanks
      (Meaning.assign letters (tree.meaning scope)) := by
  obtain ⟨behind, named, spells⟩ := spells.divide_cons (Token.visible_name letters)
  obtain ⟨start, equals, spells⟩ := spells.divide_cons (Token.visible_symbol (by decide))
  intro effects
  rw [assignment_eq scope effects named equals]
  exact ((computes_expression spells ends).bind fun operand =>
    (computes_asValue _ operand).bind fun value => computes_pure _ _) effects

/-- Where the first rule has no result, the second one reads alone. -/
theorem orElse_of_refuses {α : Type} {first : Rule (Option α)} {state : State}
    (refuses : ∀ result reached, first state ≠ .ok (some result) reached) (second : Rule α) :
    orElse first second state = second state := by
  unfold orElse
  split
  · next result reached accepted => exact absurd accepted (refuses result reached)
  · rfl

theorem computes_orElse {α : Type} {first : Rule (Option α)} {second : Rule α}
    {meaning : Meaning α}
    (refuses : ∀ effects result reached, first ⟨before, effects⟩ ≠ .ok (some result) reached)
    (computes : second.Computes before after meaning) :
    (orElse first second).Computes before after meaning := by
  intro effects
  rw [orElse_of_refuses (refuses effects)]
  exact computes effects

/-! ## Statements that are accepted -/

theorem assignment_eq_ok {before after : State} {result : Statement}
    (accepted : assignment scope before = .ok (some result) after) :
    ∃ (letters : Run isNameChar) (tree : Tree .expression) (value : Value) (middle : Cursor),
      before.cursor.Spells (.name letters :: .symbol '=' :: tree.tokens) middle ∧
      middle.Slides after.cursor ∧
      tree.meaning scope before.effects = .ok (.value value, after.effects) ∧
      result = .assignment (String.ofList letters.characters) value := by
  obtain ⟨name, behind, read, accepted⟩ := bind_eq_ok accepted
  obtain ⟨letters, rfl, passes, same⟩ := identifier_eq_ok read
  have nameSpells : before.cursor.Spells [.name letters] behind.cursor :=
    .behind (.skipBlanks before.cursor) (.exact passes)
  have cleared := Cursor.Slides.skipBlanks behind.cursor
  rw [skipBlanks_bind] at accepted
  rcases eat_bind '=' _ _ with ⟨start, equals, stepped⟩ | ⟨_, stepped⟩
  · rw [stepped] at accepted
    obtain ⟨operand, last, read, accepted⟩ := bind_eq_ok accepted
    obtain ⟨value, _, checked, accepted⟩ := bind_eq_ok accepted
    obtain ⟨isValue, rfl⟩ := asValue_eq_ok checked
    obtain ⟨equal, rfl⟩ := pure_eq_ok accepted
    obtain ⟨tree, reached, spells, slides, meaning⟩ := expression_sound scope _ operand last read
    obtain rfl := Operand.asValue_eq_ok_iff.mp isValue
    refine ⟨letters, tree, value, reached, ?_, slides, same ▸ meaning,
      (Option.some.inj equal).symm⟩
    exact nameSpells.trans ((Cursor.Spells.symbol cleared equals).trans spells)
  · rw [stepped] at accepted
    obtain ⟨equal, _⟩ := pure_eq_ok accepted
    exact absurd equal (by simp)

theorem statement_eq_ok {before after : State} {result : Statement}
    (accepted : statement scope before = .ok result after) :
    assignment scope ⟨before.cursor.skipBlanks, before.effects⟩ = .ok (some result) after ∨
      ∃ operand, expression scope ⟨before.cursor.skipBlanks, before.effects⟩ = .ok operand after ∧
        result = .expression operand := by
  rw [statement, skipBlanks_bind] at accepted
  unfold orElse at accepted
  split at accepted
  · next taken =>
    obtain ⟨rfl, rfl⟩ := EStateM.Result.ok.inj accepted
    exact .inl taken
  · obtain ⟨operand, middle, read, accepted⟩ := bind_eq_ok accepted
    obtain ⟨rfl, rfl⟩ := pure_eq_ok accepted
    exact .inr ⟨operand, read, rfl⟩

end Rule

end LineCalc
