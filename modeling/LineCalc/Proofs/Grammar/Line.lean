import LineCalc.Proofs.Grammar.Statement

/-!
# Lines

A line is read by the grammar: as an assignment if it is one, as an expression if it is one, and
otherwise not at all.  No line is both.
-/

namespace LineCalc

/-- What a rule makes of a line, wherever it stops. -/
def Rule.outcome {α : Type} (rule : Rule α) (line : String) : Except EvalError (α × Effects) :=
  match rule (State.start line) with
  | .ok result after => .ok (result, after.effects)
  | .error error _ => .error error

/-- What a line tells: the meaning of its expression, or that a name shall have the value which the
expression behind its equals sign means. -/
inductive Tells (scope : Scope) (line : String) : Statement → Effects → Prop
  | expression {operand : Operand} {effects : Effects} (tree : Tree .expression) :
      tree.Derives line → tree.meaning scope Effects.none = .ok (operand, effects) →
      Tells scope line (.expression operand) effects
  | assignment {value : Value} {effects : Effects} (letters : Run isNameChar)
      (tree : Tree .expression) :
      Tree.DerivesAssignment letters tree line →
      tree.meaning scope Effects.none = .ok (.value value, effects) →
      Tells scope line (.assignment (String.ofList letters.characters) value) effects

/-! ## Ends of lines -/

namespace Cursor

theorem ends_nil_iff {cursor : Cursor} : cursor.Ends [] ↔ Blank cursor.ahead := by
  obtain ⟨blanks, blank, passes⟩ := cursor.exists_passes_skipBlanks
  constructor
  · intro ends
    have nothing : cursor.skipBlanks.ahead = [] := by
      cases ahead : cursor.skipBlanks.ahead with
      | nil => rfl
      | cons next others => exact absurd (ends next (by simp [peek, ahead])) (by simp)
    rw [passes.ahead, nothing, List.append_nil]
    exact blank
  · intro blank next found
    have passesAll : cursor.Passes cursor.ahead ⟨cursor.position + cursor.ahead.length, []⟩ :=
      ⟨(List.append_nil _).symm, rfl⟩
    rw [skipBlanks_of_passes passesAll blank (by simp [Stops, peek])] at found
    simp [peek] at found

theorem isLine_iff {line : String} {tokens : List Token} :
    IsLine line tokens ↔ ∃ after, (ofString line).Spells tokens after ∧ after.Ends [] := by
  constructor
  · rintro ⟨text, blanks, split, spelled, blank⟩
    exact ⟨⟨0 + text.length, blanks⟩, ⟨text, spelled, split, rfl⟩, ends_nil_iff.mpr blank⟩
  · rintro ⟨after, ⟨text, spelled, passes⟩, ends⟩
    exact ⟨text, after.ahead, passes.ahead, spelled, ends_nil_iff.mp ends⟩

end Cursor

namespace Rule

variable {scope : Scope} {before after : Cursor}

theorem computes_lineEnd (ends : before.Ends []) :
    lineEnd.Computes before before.skipBlanks (pure ()) := by
  refine (computes_skipBlanks before).followed <| (computes_peek _).followed ?_
  cases found : before.skipBlanks.peek with
  | none => exact computes_pure _ ()
  | some next => exact absurd (ends next found) (by simp)

theorem lineEnd_eq_ok {before after : State} (accepted : lineEnd before = .ok () after) :
    before.cursor.Ends [] ∧ after.effects = before.effects := by
  rw [lineEnd, skipBlanks_bind, peek_bind] at accepted
  cases found : before.cursor.skipBlanks.peek with
  | none =>
      simp only [found] at accepted
      obtain ⟨_, rfl⟩ := pure_eq_ok accepted
      exact ⟨fun next other => by simp [found] at other, rfl⟩
  | some next =>
      simp only [found] at accepted
      rw [position_bind] at accepted
      exact absurd accepted not_throw_eq_ok

/-! ## Outcomes -/

theorem Computes.outcome {α : Type} {rule : Rule α} {meaning : Meaning α} {line : String}
    (computes : rule.Computes (Cursor.ofString line) after meaning) :
    rule.outcome line = meaning Effects.none := by
  unfold Rule.outcome State.start
  cases result : meaning Effects.none with
  | ok reached => rw [computes.eq_ok result]
  | error error =>
      obtain ⟨state, failed⟩ := computes.eq_error result
      rw [failed]

theorem outcome_eq_ok {α : Type} {rule : Rule α} {line : String} {result : α} {effects : Effects}
    (accepted : rule.outcome line = .ok (result, effects)) :
    ∃ after, rule (State.start line) = .ok result after ∧ after.effects = effects := by
  unfold outcome at accepted
  cases here : rule (State.start line) with
  | ok value after =>
      rw [here] at accepted
      obtain ⟨rfl, rfl⟩ := Prod.mk.inj (Except.ok.inj accepted)
      exact ⟨after, rfl, rfl⟩
  | error error after =>
      rw [here] at accepted
      exact absurd accepted (by simp)

theorem outcome_eq_error {α : Type} {rule : Rule α} {line : String} {error : EvalError}
    (failed : rule.outcome line = .error error) :
    ∃ stopped, rule (State.start line) = .error error stopped := by
  unfold outcome at failed
  split at failed
  · exact absurd failed nofun
  · next other stopped ran =>
    obtain rfl := Except.error.inj failed
    exact ⟨stopped, ran⟩

/-- What is accepted is said. -/
theorem tells_of_outcome {line : String} {result : Statement} {effects : Effects}
    (accepted : (Rule.line scope).outcome line = .ok (result, effects)) :
    Tells scope line result effects := by
  obtain ⟨after, ran, rfl⟩ := outcome_eq_ok accepted
  obtain ⟨statement, middle, read, ran⟩ := bind_eq_ok ran
  obtain ⟨_, last, ended, ran⟩ := bind_eq_ok ran
  obtain ⟨rfl, rfl⟩ := pure_eq_ok ran
  obtain ⟨ends, same⟩ := lineEnd_eq_ok ended
  have cleared := Cursor.Slides.skipBlanks (Cursor.ofString line)
  rcases statement_eq_ok read with assigns | ⟨operand, taken, rfl⟩
  · obtain ⟨letters, tree, value, reached, spells, slides, meaning, rfl⟩ :=
      assignment_eq_ok assigns
    refine .assignment letters tree (Cursor.isLine_iff.mpr ⟨reached, .behind cleared spells, ?_⟩)
      (same ▸ meaning)
    exact ends.of_slides slides
  · have derived : Derived scope .expression (State.start line) operand middle :=
      (expression_sound scope _ operand middle taken).behind (by simp)
    obtain ⟨tree, reached, spells, slides, meaning⟩ := derived
    exact .expression tree (Cursor.isLine_iff.mpr ⟨reached, spells, ends.of_slides slides⟩)
      (same ▸ meaning)

/-- A line that is an expression is taken for what its tree means. -/
theorem outcome_of_derives {line : String} {tree : Tree .expression} (derives : tree.Derives line) :
    (Rule.line scope).outcome line =
      (Statement.expression <$> tree.meaning scope) Effects.none := by
  obtain ⟨after, spells, ends⟩ := Cursor.isLine_iff.mp derives
  have begins := tree.begins (by simp)
  obtain ⟨token, tokens, split, visible, _⟩ := begins.exists_cons
  have cleared : (Cursor.ofString line).skipBlanks.Spells tree.tokens after := by
    rw [split] at spells ⊢
    exact spells.skipBlanks visible
  have reads : (statement scope).Computes (Cursor.ofString line) after.skipBlanks
      (Statement.expression <$> tree.meaning scope) := by
    refine (computes_skipBlanks _).followed (computes_orElse ?_ ?_)
    · intro effects result reached accepted
      obtain ⟨letters, other, _, middle, assigns, _⟩ := assignment_eq_ok accepted
      exact cleared.not_assignment begins ends assigns
    · rw [map_eq_pure_bind]
      exact (computes_expression cleared ends).bind fun operand => computes_pure _ _
  exact (reads.through fun result =>
    (computes_lineEnd ends.skipBlanks).followed (computes_pure _ result)).outcome

/-- A line that is an assignment gives its name the value that the tree means. -/
theorem outcome_of_derivesAssignment {line : String} {letters : Run isNameChar}
    {tree : Tree .expression} {value : Value} {effects : Effects}
    (derives : Tree.DerivesAssignment letters tree line)
    (meaning : tree.meaning scope Effects.none = .ok (.value value, effects)) :
    (Rule.line scope).outcome line =
      .ok (.assignment (String.ofList letters.characters) value, effects) := by
  obtain ⟨after, spells, ends⟩ := Cursor.isLine_iff.mp derives
  have cleared := spells.skipBlanks (Token.visible_name letters)
  have assigns : assignment scope ⟨(Cursor.ofString line).skipBlanks, Effects.none⟩ =
      .ok (some (.assignment (String.ofList letters.characters) value))
        ⟨after.skipBlanks, effects⟩ :=
    (computes_assignment cleared ends).eq_ok (Meaning.assign_of_ok meaning)
  have stated : statement scope (State.start line) =
      .ok (.assignment (String.ofList letters.characters) value) ⟨after.skipBlanks, effects⟩ := by
    rw [statement, skipBlanks_bind]
    unfold orElse
    rw [State.start, assigns]
  have ended : lineEnd ⟨after.skipBlanks, effects⟩ =
      .ok () ⟨after.skipBlanks.skipBlanks, effects⟩ := computes_lineEnd ends.skipBlanks effects
  rw [outcome, Rule.line, bind_of_ok stated, bind_of_ok ended]
  rfl

end Rule

theorem outcome_eq_ok_iff {scope : Scope} {line : String} {result : Statement}
    {effects : Effects} :
    (Rule.line scope).outcome line = .ok (result, effects) ↔ Tells scope line result effects := by
  constructor
  · exact Rule.tells_of_outcome
  · intro tells
    cases tells with
    | expression tree derives meaning =>
        rw [Rule.outcome_of_derives derives, map_eq_pure_bind, Meaning.bind_of_ok meaning]
        rfl
    | assignment letters tree derives meaning =>
        exact Rule.outcome_of_derivesAssignment derives meaning

/-- No line is an expression and an assignment. -/
theorem Tree.Derives.not_derivesAssignment {line : String} {tree other : Tree .expression}
    (derives : tree.Derives line) (letters : Run isNameChar) :
    ¬ other.DerivesAssignment letters line := by
  intro assigns
  obtain ⟨after, spells, ends⟩ := Cursor.isLine_iff.mp derives
  obtain ⟨stop, named, _⟩ := Cursor.isLine_iff.mp assigns
  exact spells.not_assignment (tree.begins (by simp)) ends named

/-- An assignment is accepted exactly if its expression means a value. -/
theorem outcome_of_derivesAssignment_iff {scope : Scope} {line : String}
    {letters : Run isNameChar} {tree : Tree .expression} {result : Statement} {effects : Effects}
    (derives : tree.DerivesAssignment letters line) :
    (Rule.line scope).outcome line = .ok (result, effects) ↔
      ∃ value, result = .assignment (String.ofList letters.characters) value ∧
        tree.meaning scope Effects.none = .ok (.value value, effects) := by
  constructor
  · intro accepted
    cases Rule.tells_of_outcome accepted with
    | expression other otherDerives _ =>
        exact absurd derives (otherDerives.not_derivesAssignment letters)
    | assignment otherLetters other otherDerives meaning =>
        -- The tree that was found need not be the given one, but one attempt reads both.
        obtain ⟨after, spells, ends⟩ := Cursor.isLine_iff.mp derives
        obtain ⟨stop, otherSpells, otherEnds⟩ := Cursor.isLine_iff.mp otherDerives
        have assigns : Rule.assignment scope ⟨Cursor.ofString line, Effects.none⟩ = _ :=
          (Rule.computes_assignment otherSpells otherEnds).eq_ok (Meaning.assign_of_ok meaning)
        have means := (Rule.computes_assignment spells ends).of_eq_ok assigns
        obtain ⟨value, written, meaning⟩ := Meaning.assign_eq_ok means
        exact ⟨value, Option.some.inj written, meaning⟩
  · rintro ⟨value, rfl, meaning⟩
    exact Rule.outcome_of_derivesAssignment derives meaning

/-- The line can be derived from the grammar. -/
def Sentence (line : String) : Prop :=
  (∃ tree : Tree .expression, tree.Derives line) ∨
    ∃ (letters : Run isNameChar) (tree : Tree .expression), tree.DerivesAssignment letters line

/-- Lines are read as the grammar has it.  An expression gives what its tree means: the operand with
the effects of its evaluation, or the error, which is never that the line is malformed.  An
assignment is accepted with the value that its tree means, and fails if that is no value.  Whatever
is not a sentence fails. -/
theorem line_follows_grammar (scope : Scope) (line : String) :
    (∀ tree : Tree .expression, tree.Derives line →
      (Rule.line scope).outcome line =
          (Statement.expression <$> tree.meaning scope) Effects.none ∧
        Semantic (tree.meaning scope Effects.none)) ∧
    (∀ (letters : Run isNameChar) (tree : Tree .expression),
      tree.DerivesAssignment letters line →
      ∀ result effects, (Rule.line scope).outcome line = .ok (result, effects) ↔
        ∃ value, result = .assignment (String.ofList letters.characters) value ∧
          tree.meaning scope Effects.none = .ok (.value value, effects)) ∧
    (¬ Sentence line → ∃ error, (Rule.line scope).outcome line = .error error) := by
  refine ⟨?_, ?_, ?_⟩
  · intro tree derives
    exact ⟨Rule.outcome_of_derives derives, tree.semantic_meaning scope Effects.none⟩
  · intro letters tree derives result effects
    exact outcome_of_derivesAssignment_iff derives
  · intro noSentence
    cases accepted : (Rule.line scope).outcome line with
    | error error => exact ⟨error, rfl⟩
    | ok reached =>
        obtain ⟨result, effects⟩ := reached
        cases Rule.tells_of_outcome accepted with
        | expression tree derives _ => exact absurd (.inl ⟨tree, derives⟩) noSentence
        | assignment letters tree derives _ =>
            exact absurd (.inr ⟨letters, tree, derives⟩) noSentence

/-- A line that asks the console for something has an empty result. -/
theorem outcome_print :
    (Rule.line ⟨Bindings.empty, fun _ => .nan⟩).outcome "print( 1)" =
      .ok (.expression (.nothing .print), ⟨[.print "1"], 0⟩) := by
  let name : Run isNameChar := ⟨"print".toList, by decide, forall_mem_of_all (by decide)⟩
  let one : Run Char.isDigit := ⟨['1'], by decide, forall_mem_of_all (by decide)⟩
  let argument : Tree .expression := .term (.factor (.number one none))
  let tree : Tree .expression := .term (.factor (.call name (.filled (.last argument))))
  have spelled : Spelled tree.tokens ([] ++ "print".toList ++ ([] ++ ['('] ++
      ([' '] ++ ['1'] ++ ([] ++ [')'] ++ [])))) :=
    .cons (.name name) .nil (.cons (.symbol '(') .nil
      (.cons (.number one none) (by decide) (.cons (.symbol ')') .nil .nil)))
  have derives : tree.Derives "print( 1)" := ⟨_, [], by decide, spelled, .nil⟩
  rw [((line_follows_grammar _ _).1 tree derives).1]
  decide +kernel

end LineCalc
