import LineCalc.Proofs.Grammar.Abreast
import LineCalc.Proofs.Grammar.Completeness
import LineCalc.Session

/-!
# What a line depends on

Of the variables, a line depends on those whose names stand in it without a parenthesis behind them.
A name with a parenthesis is a builtin whatever the variables are; a name without one is a variable
if there is one, and a builtin otherwise.
-/

namespace LineCalc

namespace Cursor

theorem abreast_eq : Abreast (· = ·) where
  skip := by
    rintro here _ rfl
    rfl
  next := by
    rintro here _ rfl
    cases found : here.skipBlanks.peek with
    | none => exact .inl ⟨rfl, rfl⟩
    | some first =>
        obtain ⟨characters, after, meets⟩ := exists_meets found
        exact .inr ⟨first, characters, after, after, here.stops_skipBlanks first found, meets,
          meets, rfl⟩

end Cursor

namespace Rule

variable {first second : Bindings} {state : State}

/-- Readings that keep step on the same text are the same. -/
theorem Matches.eq {α : Type} {result other : EStateM.Result EvalError State α}
    (paired : Matches (Level (· = ·) first second) (EvalError.Alike (· = ·)) result other) :
    result = other := by
  have same {here there : State} (level : Level (· = ·) first second here there) :
      here = there := by
    obtain ⟨cursor, _, effects⟩ := level
    cases here
    cases there
    simp_all
  cases paired with
  | ok result level => rw [same level]
  | error alike level =>
      cases alike with
      | malformed fault pair _ _ => rw [same level, pair]
      | meaningless fault => rw [same level]

/-- If the names that count have the same values, a line is read in the same way. -/
theorem line_of_agree (noise : Noise)
    (agree : ∀ name ∈ bareNames state.cursor.lexemes, first.get? name = second.get? name) :
    line ⟨first, noise⟩ state = line ⟨second, noise⟩ state :=
  ((Level.lockstep Cursor.abreast_eq noise).line ⟨rfl, agree, rfl⟩).eq

theorem factor_of_agree (noise : Noise)
    (agree : ∀ name ∈ bareNames state.cursor.lexemes, first.get? name = second.get? name) :
    factor ⟨first, noise⟩ state = factor ⟨second, noise⟩ state :=
  ((Level.lockstep Cursor.abreast_eq noise).factorWithin state state ⟨rfl, agree, rfl⟩
    (Nat.le_refl _) (Nat.le_refl _)).eq

/-- A name that no parenthesis follows is looked up. -/
theorem computes_factor_of_bare (scope : Scope) {before after : Cursor} {letter : Char}
    {letters : List Char} (named : isNameChar letter = true)
    (meets : before.skipBlanks.Meets (letter :: letters) after)
    (bare : after.skipBlanks.peek ≠ some '(') :
    (factor scope).Computes before after.skipBlanks
      (Meaning.named scope (String.ofList (letter :: letters))) := by
  have found := Cursor.peek_of_passes meets.passes
  have shorter := Cursor.length_bump_lt found
  obtain ⟨bound, fits⟩ := Nat.exists_eq_succ_of_ne_zero (show before.ahead.length ≠ 0 by omega)
  have taken : identifier.Computes before.skipBlanks after
      (pure (String.ofList (letter :: letters))) := by
    intro effects
    exact identifier_of_meets named (by rwa [Cursor.skipBlanks_skipBlanks])
  have reads : (nameOrCall scope (expressionOf (factorWithin scope bound) bound) bound).Computes
      before.skipBlanks after.skipBlanks
      (Meaning.named scope (String.ofList (letter :: letters))) :=
    taken.followed <| (computes_skipBlanks _).followed <| (computes_eat_of_ne bare).followed <|
      computes_named scope _ _
  have computes := computes_factorWithin_of_letter found named reads
  intro effects
  have here := computes effects
  rw [← Nat.succ_eq_add_one, ← fits] at here
  exact here

end Rule

namespace Session

variable {session otherSession : Session} {line : String}

theorem evaluate_of_agree (noise : Noise)
    (agree : ∀ name ∈ bareNames (lexemes line), session.get? name = otherSession.get? name) :
    (session.evaluate noise line).result = (otherSession.evaluate noise line).result ∧
      (session.evaluate noise line).events = (otherSession.evaluate noise line).events ∧
      ((session.evaluate noise line).session = session ∧
          (otherSession.evaluate noise line).session = otherSession ∨
        ∃ name value, (session.evaluate noise line).session = session.assign name value ∧
          (otherSession.evaluate noise line).session = otherSession.assign name value) := by
  have read : Rule.line ⟨session.bindings, noise⟩ (State.start line) =
      Rule.line ⟨otherSession.bindings, noise⟩ (State.start line) :=
    Rule.line_of_agree noise agree
  unfold evaluate
  rw [read]
  generalize Rule.line ⟨otherSession.bindings, noise⟩ (State.start line) = result
  cases result with
  | error error state => exact ⟨rfl, rfl, .inl ⟨rfl, rfl⟩⟩
  | ok statement state =>
      cases statement with
      | assignment name value => exact ⟨rfl, rfl, .inr ⟨name, value, rfl, rfl⟩⟩
      | expression operand => cases operand <;> exact ⟨rfl, rfl, .inl ⟨rfl, rfl⟩⟩

/-- A line comes to the same in two sessions that agree on the names without a parenthesis behind
them, and does the same to both.  The call of a name does not depend on what the name is assigned;
a name that is no call stands for the variable, whether or not there is a builtin of that name. -/
theorem depends_on_bareNames (noise : Noise) :
    (∀ (line : String) (session otherSession : Session),
      (∀ name ∈ bareNames (lexemes line), session.get? name = otherSession.get? name) →
      (session.evaluate noise line).result = (otherSession.evaluate noise line).result ∧
        (session.evaluate noise line).events = (otherSession.evaluate noise line).events ∧
        ((session.evaluate noise line).session = session ∧
            (otherSession.evaluate noise line).session = otherSession ∨
          ∃ name value, (session.evaluate noise line).session = session.assign name value ∧
            (otherSession.evaluate noise line).session = otherSession.assign name value)) ∧
    (∀ (first second : Bindings) (state : State) (lexeme : List Char) (others : List (List Char)),
      state.cursor.lexemes = lexeme :: ['('] :: others →
      (∀ name ∈ bareNames others, first.get? name = second.get? name) →
      Rule.factor ⟨first, noise⟩ state = Rule.factor ⟨second, noise⟩ state) ∧
    ∀ (bindings : Bindings) (state : State) (lexeme : List Char) (others : List (List Char))
      (value : Value), state.cursor.lexemes = lexeme :: others → others.head? ≠ some ['('] →
      lexeme.head?.any isNameChar = true →
      bindings.get? (String.ofList lexeme) = some value →
      ∃ after, Rule.factor ⟨bindings, noise⟩ state = .ok (.value value) after ∧
        after.cursor.lexemes = others ∧ after.effects = state.effects := by
  refine ⟨fun line session otherSession => evaluate_of_agree noise, ?_, ?_⟩
  · intro first second state lexeme others ahead agree
    apply Rule.factor_of_agree
    rw [ahead]
    simpa [bareNames, isNameChar] using agree
  · intro bindings state lexeme others value ahead bare named bound
    obtain ⟨after, meets, rfl⟩ := Cursor.exists_meets_of_lexemes ahead
    obtain ⟨letter, letters, rfl⟩ := List.exists_cons_of_ne_nil meets.nonempty
    have follows : after.skipBlanks.peek ≠ some '(' :=
      fun opens => bare (Cursor.head?_lexemes_of_mark opens (by decide))
    have computes := Rule.computes_factor_of_bare ⟨bindings, noise⟩ named meets follows
    refine ⟨⟨after.skipBlanks, state.effects⟩, computes.eq_ok ?_, after.lexemes_skipBlanks, rfl⟩
    simp only [Meaning.named, bound]
    rfl

/-- In the first line the name is only called, so that the variable does not matter; in the other
text the variable hides the builtin. -/
theorem depends_on_bareNames_max :
    ((fresh.assign "max" (.text "m")).evaluate (fun _ => .nan) "max(2) + 1").result =
        (fresh.evaluate (fun _ => .nan) "max(2) + 1").result ∧
      Rule.factor ⟨(fresh.assign "max" (.text "m")).bindings, fun _ => .nan⟩
          (State.start "max (2) * y") =
        Rule.factor ⟨(fresh.assign "max" (.text "n")).bindings, fun _ => .nan⟩
          (State.start "max (2) * y") ∧
      ∃ after, Rule.factor ⟨(fresh.assign "max" (.text "m")).bindings, fun _ => .nan⟩
          (State.start " max + max(2)") = .ok (.value (.text "m")) after ∧
        after.cursor.lexemes = lexemes "+ max(2)" ∧ after.effects = Effects.none := by
  obtain ⟨lines, calls, names⟩ := depends_on_bareNames fun _ => .nan
  refine ⟨(lines "max(2) + 1" _ _ ?_).1,
    calls _ _ _ "max".toList [['2'], [')'], ['*'], ['y']] ?_ ?_,
    names _ _ "max".toList (lexemes "+ max(2)") (.text "m") ?_ ?_ ?_ ?_⟩
  all_goals decide +kernel

end Session

end LineCalc
