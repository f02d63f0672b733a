import LineCalc.Proofs.Grammar.Procedure

/-!
# Progress

Every rule ends, on malformed lines as well: as a recursive procedure it has an outcome from every
state, and its calls are never nested deeper than the text ahead allows for.  It leaves the cursor
inside the text and never behind the place where it began; if it succeeds, it has read something.
-/

namespace LineCalc

namespace Cursor

/-- The cursor stands in the text. -/
structure StandsIn (cursor : Cursor) (source : List Char) : Prop where
  position : cursor.position ≤ source.length
  ahead : cursor.ahead = source.drop cursor.position

theorem Passes.standsIn {before after : Cursor} {text source : List Char}
    (passes : before.Passes text after) (stands : before.StandsIn source) :
    after.StandsIn source := by
  have written : text ++ after.ahead = source.drop before.position :=
    passes.ahead.symm.trans stands.ahead
  have fits : text.length + after.ahead.length = source.length - before.position := by
    rw [← List.length_append, written, List.length_drop]
  have reached := passes.position
  have inside := stands.position
  constructor
  · omega
  · rw [reached, ← List.drop_drop, ← written, List.drop_left]

/-- With less ahead, the cursor is further on. -/
theorem Passes.position_lt {before after : Cursor} {text : List Char}
    (passes : before.Passes text after) (fewer : after.ahead.length < before.ahead.length) :
    before.position < after.position := by
  have reached := passes.position
  have divided := passes.length
  omega

theorem exists_passes_bump (cursor : Cursor) : ∃ text, cursor.Passes text cursor.bump.2 := by
  cases found : cursor.peek with
  | some character => exact ⟨[character], passes_bump found⟩
  | none =>
      have nothing : cursor.ahead = [] := List.head?_eq_none_iff.mp found
      refine ⟨[], ?_⟩
      simpa [bump, nothing] using Passes.refl cursor

theorem exists_passes_eat (expected : Char) (cursor : Cursor) :
    ∃ text, cursor.Passes text (cursor.eat expected).2 := by
  by_cases found : cursor.peek = some expected
  · rw [eat_of_passes (passes_bump found)]
    exact ⟨[expected], passes_bump found⟩
  · rw [eat_of_ne found]
    exact ⟨[], .refl cursor⟩

end Cursor

namespace Rule

variable {α β : Type} {scope : Scope}

/-- However the rule ends, it leaves the cursor where it was or further on. -/
def Onward (rule : Rule α) : Prop :=
  ∀ before : State, ∃ text, before.cursor.Passes text (ended (rule before)).2.cursor

/-! ## Single steps -/

theorem onward_of_stays {rule : Rule α}
    (stays : ∀ before, (ended (rule before)).2.cursor = before.cursor) : Onward rule := by
  intro before
  rw [stays before]
  exact ⟨[], .refl before.cursor⟩

theorem onward_pure (result : α) : Onward (pure result) :=
  onward_of_stays fun _ => rfl

theorem onward_throw (error : EvalError) : Onward (throw error : Rule α) :=
  onward_of_stays fun _ => rfl

theorem onward_peek : Onward peek :=
  onward_of_stays fun _ => rfl

theorem onward_position : Onward position :=
  onward_of_stays fun _ => rfl

theorem onward_asValue (operand : Operand) : Onward (asValue operand) := by
  cases operand with
  | value content => exact onward_pure content
  | function builtin => exact onward_throw _
  | nothing builtin => exact onward_throw _

theorem onward_named (name : String) : Onward (named scope name) := by
  unfold named
  split
  · exact onward_pure _
  · exact onward_pure _
  · exact onward_throw _

theorem onward_call (builtin : Builtin) (operands : List Operand) :
    Onward (call scope builtin operands) := by
  refine onward_of_stays fun before => ?_
  unfold call
  cases builtin.call scope.noise operands before.effects <;> rfl

theorem onward_move {operation : Cursor → α × Cursor}
    (moves : ∀ cursor : Cursor, ∃ text, cursor.Passes text (operation cursor).2) :
    Onward (move operation) :=
  fun before => moves before.cursor

theorem onward_skipBlanks : Onward skipBlanks :=
  onward_move fun cursor =>
    let ⟨blanks, _, passes⟩ := cursor.exists_passes_skipBlanks
    ⟨blanks, passes⟩

theorem onward_takeWhile (wanted : Char → Bool) : Onward (takeWhile wanted) :=
  onward_move fun cursor => ⟨_, cursor.passes_takeWhile wanted⟩

theorem onward_bump : Onward bump :=
  onward_move Cursor.exists_passes_bump

theorem onward_eat (expected : Char) : Onward (eat expected) :=
  onward_move (Cursor.exists_passes_eat expected)

/-! ## Steps one after another -/

theorem Onward.bind {first : Rule α} {next : α → Rule β} (onward : Onward first)
    (rest : ∀ result, Onward (next result)) : Onward (first >>= next) := by
  intro before
  obtain ⟨text, passes⟩ := onward before
  cases outcome : first before with
  | error error after =>
      rw [bind_of_error outcome]
      rw [outcome] at passes
      exact ⟨text, passes⟩
  | ok result after =>
      rw [outcome] at passes
      obtain ⟨more, further⟩ := rest result after
      rw [bind_of_ok outcome]
      exact ⟨text ++ more, passes.trans further⟩

theorem Onward.orElse {first : Rule (Option α)} {second : Rule α} (onward : Onward first)
    (otherwise : Onward second) : Onward (orElse first second) := by
  intro before
  have attempt := onward before
  have again := otherwise before
  unfold Rule.orElse
  cases outcome : first before with
  | error error after => exact again
  | ok result after =>
      cases result with
      | none => exact again
      | some found =>
          rw [outcome] at attempt
          exact attempt

/-- The rule never goes back, and reads something if it succeeds. -/
structure Advances (rule : Rule α) : Prop where
  onward : Onward rule
  shortens : Shortens rule

theorem Advances.bind {first : Rule α} {next : α → Rule β} (advances : Advances first)
    (rest : ∀ result, Onward (next result)) : Advances (first >>= next) where
  onward := advances.onward.bind rest
  shortens := by
    intro before result after accepted
    obtain ⟨value, middle, read, accepted⟩ := bind_eq_ok accepted
    obtain ⟨text, passes⟩ := rest value middle
    rw [accepted] at passes
    have fewer := advances.shortens before value middle read
    have passed : middle.cursor.ahead.length = text.length + after.cursor.ahead.length :=
      passes.length
    omega

theorem Onward.advances_bind {first : Rule α} {next : α → Rule β} (onward : Onward first)
    (rest : ∀ result, Advances (next result)) : Advances (first >>= next) where
  onward := onward.bind fun result => (rest result).onward
  shortens := by
    intro before result after accepted
    obtain ⟨value, middle, read, accepted⟩ := bind_eq_ok accepted
    obtain ⟨text, passes⟩ := onward before
    rw [read] at passes
    have fewer := (rest value).shortens middle result after accepted
    have passed : before.cursor.ahead.length = text.length + middle.cursor.ahead.length :=
      passes.length
    omega

theorem Advances.orElse {first : Rule (Option α)} {second : Rule α} (advances : Advances first)
    (otherwise : Advances second) : Advances (orElse first second) where
  onward := advances.onward.orElse otherwise.onward
  shortens := by
    intro before result after accepted
    unfold Rule.orElse at accepted
    split at accepted
    · next found middle read =>
      obtain ⟨rfl, rfl⟩ := EStateM.Result.ok.inj accepted
      exact advances.shortens before _ _ read
    · exact otherwise.shortens before result after accepted

/-! ## Literals and names -/

theorem onward_string : Onward string := by
  refine onward_position.bind fun start => onward_bump.bind fun _ => ?_
  refine (onward_takeWhile _).bind fun content => (onward_eat _).bind fun closed => ?_
  split
  · exact onward_pure _
  · exact onward_throw _

theorem onward_fraction : Onward fraction := by
  intro before
  unfold fraction
  split
  · exact (onward_bump.bind fun _ => onward_takeWhile _) before
  · exact ⟨[], .refl before.cursor⟩

theorem onward_number : Onward number := by
  refine onward_skipBlanks.bind fun _ => onward_position.bind fun start => ?_
  refine (onward_takeWhile _).bind fun whole => ?_
  split
  · exact onward_throw _
  · exact onward_fraction.bind fun places => onward_pure _

theorem onward_identifier : Onward identifier := by
  refine onward_skipBlanks.bind fun _ => onward_position.bind fun start => ?_
  refine (onward_takeWhile _).bind fun name => ?_
  split
  · exact onward_throw _
  · exact onward_pure _

/-! ## Expressions -/

theorem onward_chainFrom {operator? : Char → Option Operator} {operand : Rule Operand}
    (onward : Onward operand) (loops : Nat) (left : Operand) :
    Onward (chainFrom operator? operand loops left) := by
  induction loops generalizing left with
  | zero => exact onward_pure left
  | succ loops ih =>
      refine onward_skipBlanks.bind fun _ => onward_peek.bind fun next => ?_
      split
      · exact onward_pure left
      · refine onward_bump.bind fun _ => onward.bind fun right => ?_
        refine (onward_asValue left).bind fun leftValue => ?_
        exact (onward_asValue right).bind fun rightValue => ih _

theorem onward_chain {operator? : Char → Option Operator} {operand : Rule Operand}
    (onward : Onward operand) (bound : Nat) : Onward (chain operator? operand bound) :=
  onward.bind fun first => onward_chainFrom onward bound first

theorem onward_expressionOf {factor : Rule Operand} (onward : Onward factor) (bound : Nat) :
    Onward (expressionOf factor bound) :=
  onward_chain (onward_chain onward bound) bound

theorem onward_closingParen : Onward closingParen := by
  refine onward_position.bind fun start => (onward_eat _).bind fun closed => ?_
  split
  · exact onward_pure _
  · exact onward_throw _

theorem onward_argumentsFrom {content : Rule Operand} (onward : Onward content) (loops : Nat) :
    Onward (argumentsFrom content loops) := by
  induction loops with
  | zero => exact onward.bind fun last => onward_pure _
  | succ loops ih =>
      refine onward.bind fun first => onward_skipBlanks.bind fun _ => ?_
      refine (onward_eat _).bind fun comma => ?_
      split
      · exact ih.bind fun others => onward_pure _
      · exact onward_pure _

theorem onward_arguments {content : Rule Operand} (onward : Onward content) (bound : Nat) :
    Onward (arguments content bound) := by
  refine onward_skipBlanks.bind fun _ => onward_peek.bind fun next => ?_
  split
  · exact onward_closingParen.bind fun _ => onward_pure _
  · refine (onward_argumentsFrom onward bound).bind fun operands => ?_
    exact onward_closingParen.bind fun _ => onward_pure _

theorem onward_nameOrCall {content : Rule Operand} (onward : Onward content) (bound : Nat) :
    Onward (nameOrCall scope content bound) := by
  refine onward_identifier.bind fun name => onward_skipBlanks.bind fun _ => ?_
  refine (onward_eat _).bind fun opens => ?_
  split
  · refine (onward_arguments onward bound).bind fun operands => ?_
    split
    · exact onward_call _ _
    · exact onward_throw _
  · exact onward_named name

theorem onward_factorWithin (scope : Scope) (bound : Nat) : Onward (factorWithin scope bound) := by
  induction bound with
  | zero => exact onward_number.bind fun _ => onward_pure _
  | succ bound ih =>
      have inside := onward_expressionOf ih bound
      refine onward_skipBlanks.bind fun _ => onward_peek.bind fun next => ?_
      split
      · exact onward_string.bind fun _ => onward_pure _
      · exact onward_bump.bind fun _ => ih
      · refine onward_bump.bind fun _ => ih.bind fun operand => ?_
        exact (onward_asValue operand).bind fun _ => onward_pure _
      · refine onward_bump.bind fun _ => inside.bind fun operand => ?_
        exact onward_skipBlanks.bind fun _ => onward_closingParen.bind fun _ => onward_pure _
      · split
        · exact onward_nameOrCall inside bound
        · exact onward_number.bind fun _ => onward_pure _

theorem advances_termOf {factor : Rule Operand} {bound : Nat} (onward : Onward factor)
    (sound : Sound scope .factor factor) : Advances (termOf factor bound) :=
  ⟨onward_chain onward bound, (termOf_sound sound).shortens (by simp)⟩

theorem advances_expressionOf {factor : Rule Operand} {bound : Nat} (onward : Onward factor)
    (sound : Sound scope .factor factor) : Advances (expressionOf factor bound) :=
  ⟨onward_expressionOf onward bound, (expressionOf_sound sound).shortens (by simp)⟩

theorem advances_bounded {rule : Nat → Rule α} (advances : ∀ bound, Advances (rule bound)) :
    Advances (bounded rule) where
  onward before := (advances before.cursor.ahead.length).onward before
  shortens before := (advances before.cursor.ahead.length).shortens before

theorem advances_factor (scope : Scope) : Advances (factor scope) :=
  advances_bounded fun bound =>
    ⟨onward_factorWithin scope bound, (factorWithin_sound scope bound).shortens (by simp)⟩

theorem advances_term (scope : Scope) : Advances (term scope) :=
  advances_bounded fun bound =>
    advances_termOf (onward_factorWithin scope bound) (factorWithin_sound scope bound)

theorem advances_expression (scope : Scope) : Advances (expression scope) :=
  advances_bounded fun bound =>
    advances_expressionOf (onward_factorWithin scope bound) (factorWithin_sound scope bound)

/-! ## Lines -/

theorem advances_assignment (scope : Scope) : Advances (assignment scope) := by
  have name : Advances identifier := ⟨onward_identifier, shortens_identifier⟩
  refine name.bind fun _ => onward_skipBlanks.bind fun _ => (onward_eat _).bind fun equals => ?_
  split
  · refine (advances_expression scope).onward.bind fun operand => ?_
    exact (onward_asValue operand).bind fun _ => onward_pure _
  · exact onward_pure _

theorem advances_statement (scope : Scope) : Advances (statement scope) := by
  refine onward_skipBlanks.advances_bind fun _ => (advances_assignment scope).orElse ?_
  exact (advances_expression scope).bind fun _ => onward_pure _

theorem onward_lineEnd : Onward lineEnd := by
  refine onward_skipBlanks.bind fun _ => onward_peek.bind fun next => ?_
  split
  · exact onward_pure _
  · exact onward_position.bind fun place => onward_throw _

theorem advances_line (scope : Scope) : Advances (line scope) :=
  (advances_statement scope).bind fun _ => onward_lineEnd.bind fun _ => onward_pure _

/-! ## Ends of the rules -/

/-- From the state, the procedure has the outcome of the rule at every depth that allows for five
calls for each character ahead and six more.  It leaves the cursor in the text, further on if it
succeeds, and not further back if it fails. -/
def EndsOnward (procedure : Nat → Procedure α) (rule : Rule α) (source : List Char)
    (before : State) : Prop :=
  (∀ depth, 5 * before.cursor.ahead.length + 6 ≤ depth →
    procedure depth before = some (ended (rule before))) ∧
  match rule before with
  | .ok _ after =>
      before.cursor.position < after.cursor.position ∧ after.cursor.StandsIn source
  | .error _ after =>
      before.cursor.position ≤ after.cursor.position ∧ after.cursor.StandsIn source

theorem Advances.endsOnward {procedure : Nat → Procedure α} {rule : Rule α} {source : List Char}
    {before : State} (advances : Advances rule)
    (follows : ∀ depth, 5 * before.cursor.ahead.length + 6 ≤ depth →
      Procedure.Follows (procedure depth) rule before)
    (stands : before.cursor.StandsIn source) : EndsOnward procedure rule source before := by
  obtain ⟨text, passes⟩ := advances.onward before
  have inside := passes.standsIn stands
  refine ⟨follows, ?_⟩
  cases outcome : rule before with
  | ok result after =>
      rw [outcome] at passes inside
      exact ⟨passes.position_lt (advances.shortens before result after outcome), inside⟩
  | error error after =>
      rw [outcome] at passes inside
      have reached : after.cursor.position = before.cursor.position + text.length :=
        passes.position
      exact ⟨by omega, inside⟩

/-- Every rule of the grammar ends from every place of every text.  It never goes back or out of the
text, and when it succeeds it has gone further. -/
theorem rules_endOnward (scope : Scope) {source : List Char} {before : State}
    (stands : before.cursor.StandsIn source) :
    EndsOnward (Procedure.factor scope) (factor scope) source before ∧
      EndsOnward (Procedure.term scope) (term scope) source before ∧
      EndsOnward (Procedure.expression scope) (expression scope) source before ∧
      EndsOnward (Procedure.statement scope) (statement scope) source before ∧
      EndsOnward (Procedure.line scope) (line scope) source before := by
  refine ⟨?_, ?_, ?_, ?_, ?_⟩
  · exact (advances_factor scope).endsOnward
      (fun _ enough => Procedure.follows_factor scope (by omega)) stands
  · exact (advances_term scope).endsOnward
      (fun _ enough => Procedure.follows_term scope (by omega)) stands
  · exact (advances_expression scope).endsOnward
      (fun _ => Procedure.follows_expression scope) stands
  · exact (advances_statement scope).endsOnward
      (fun _ => Procedure.follows_statement scope) stands
  · exact (advances_line scope).endsOnward (fun _ => Procedure.follows_line scope) stands

/-- The line is read twice from its third character: the assignment fails at the end of the text,
the expression at the sign. -/
theorem rules_endOnward_unclosed :
    let before : State := ⟨⟨2, " max = -(2 *".toList⟩, Effects.none⟩
    before.cursor.StandsIn "1+ max = -(2 *".toList ∧
      ∃ after, Procedure.line ⟨Bindings.empty, fun _ => .nan⟩ 66 before =
          some (.error (.malformed (.unexpectedCharacter '=' 7)), after) ∧
        2 ≤ after.cursor.position ∧ after.cursor.StandsIn "1+ max = -(2 *".toList := by
  intro before
  have stands : before.cursor.StandsIn "1+ max = -(2 *".toList := ⟨by decide, by decide⟩
  have refused : (ended (line ⟨Bindings.empty, fun _ => .nan⟩ before)).1 =
      .error (.malformed (.unexpectedCharacter '=' 7)) := by decide +kernel
  obtain ⟨_, _, _, _, finished, onward⟩ :=
    rules_endOnward ⟨Bindings.empty, fun _ => .nan⟩ stands
  have reached := finished 66 (by decide)
  cases outcome : line ⟨Bindings.empty, fun _ => .nan⟩ before with
  | ok result after =>
      rw [outcome] at refused
      exact absurd refused (by simp [ended])
  | error error after =>
      rw [outcome] at refused reached onward
      obtain rfl : error = _ := Except.error.inj refused
      exact ⟨stands, after, reached, onward⟩

end Rule

end LineCalc
