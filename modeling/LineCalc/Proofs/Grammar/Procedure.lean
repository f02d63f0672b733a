import LineCalc.Proofs.Grammar.Lockstep

/-!
# Rules as recursive procedures

The rules of the grammar are defined under a bound on the text ahead.  Here they are written a
second time as procedures that call each other and know of no such bound.  A procedure is told how
deep its calls may be nested, and it has no outcome if that does not suffice; a recursion that does
not end has none at any depth.  Five calls for every character ahead and six more suffice, and the
outcome is that of the rule.
-/

namespace LineCalc

/-- Stepping over a mark leaves less ahead. -/
theorem Rule.length_lt_of_eat {mark : Char} {cursor : Cursor} {effects : Effects} {after : State}
    (ate : eat mark ⟨cursor.skipBlanks, effects⟩ = .ok true after) :
    after.cursor.ahead.length < cursor.ahead.length := by
  by_cases found : cursor.skipBlanks.peek = some mark
  · simp only [eat, move, Cursor.eat_of_passes (Cursor.passes_bump found),
      EStateM.Result.ok.injEq] at ate
    rw [← ate.2]
    exact Cursor.length_bump_lt found
  · simp [eat, move, Cursor.eat_of_ne found] at ate

/-- A reading that may be left unfinished.  Otherwise its outcome is a result or an error, and the
state that is left. -/
abbrev Procedure (α : Type) := ExceptT EvalError (StateT State Option) α

/-- The end of a reading: a result or an error, and the state that is left. -/
def Rule.ended {α : Type} : EStateM.Result EvalError State α → Except EvalError α × State
  | .ok result after => (.ok result, after)
  | .error error after => (.error error, after)

/-- The two kinds of chains. -/
inductive Chain where
  | term
  | expression

/-- The operators of a chain. -/
def Chain.operator? : Chain → Char → Option Operator
  | term => Operator.multiplicative?
  | expression => Operator.additive?

namespace Procedure

/-- A rule that calls no other, as a procedure. -/
def step {α : Type} (rule : Rule α) : Procedure α := fun state =>
  some (Rule.ended (rule state))

/-- What is left of a reading when no more calls are allowed. -/
def unfinished {α : Type} : Procedure α := fun _ =>
  none

mutual

/-- Reads a factor. -/
def factor (scope : Scope) : Nat → Procedure Operand
  | 0 => unfinished
  | depth + 1 => do
      step Rule.skipBlanks
      match ← step Rule.peek with
      | some '"' => return .value (.text (← step Rule.string))
      | some '+' =>
          step Rule.bump
          factor scope depth
      | some '-' =>
          step Rule.bump
          let operand ← factor scope depth
          return .value (← step (Rule.asValue operand)).neg
      | some '(' =>
          step Rule.bump
          let operand ← chain scope .expression depth
          step Rule.skipBlanks
          step Rule.closingParen
          return operand
      | next =>
          if next.any isNameChar then
            nameOrCall scope depth
          else
            return .value (.number (← step Rule.number))

/-- Reads a name, and the arguments that make it a call. -/
def nameOrCall (scope : Scope) : Nat → Procedure Operand
  | 0 => unfinished
  | depth + 1 => do
      let name ← step Rule.identifier
      step Rule.skipBlanks
      if ← step (Rule.eat '(') then
        let operands ← arguments scope depth
        match Builtin.lookup? name with
        | some builtin => step (Rule.call scope builtin operands)
        | none => step (Rule.meaningless (.unknownFunction name))
      else
        step (Rule.named scope name)

/-- Reads the arguments of a call and the parenthesis that closes it. -/
def arguments (scope : Scope) : Nat → Procedure (List Operand)
  | 0 => unfinished
  | depth + 1 => do
      step Rule.skipBlanks
      if (← step Rule.peek) = some ')' then
        step Rule.closingParen
        return []
      else
        let operands ← argumentsFrom scope depth
        step Rule.closingParen
        return operands

/-- Reads expressions as long as commas follow. -/
def argumentsFrom (scope : Scope) : Nat → Procedure (List Operand)
  | 0 => unfinished
  | depth + 1 => do
      let first ← chain scope .expression depth
      step Rule.skipBlanks
      if ← step (Rule.eat ',') then
        let others ← argumentsFrom scope depth
        return first :: others
      else
        return [first]

/-- Reads an operand of a chain. -/
def operand (scope : Scope) (kind : Chain) : Nat → Procedure Operand
  | 0 => unfinished
  | depth + 1 =>
      match kind with
      | .term => factor scope depth
      | .expression => chain scope .term depth

/-- Reads a chain. -/
def chain (scope : Scope) (kind : Chain) : Nat → Procedure Operand
  | 0 => unfinished
  | depth + 1 => do
      let first ← operand scope kind depth
      chainFrom scope kind first depth

/-- Applies operators to an operand as long as one follows. -/
def chainFrom (scope : Scope) (kind : Chain) (left : Operand) : Nat → Procedure Operand
  | 0 => unfinished
  | depth + 1 => do
      step Rule.skipBlanks
      match (← step Rule.peek).bind kind.operator? with
      | none => return left
      | some operator =>
          step Rule.bump
          let right ← operand scope kind depth
          let leftValue ← step (Rule.asValue left)
          let rightValue ← step (Rule.asValue right)
          chainFrom scope kind (.value (operator.apply leftValue rightValue)) depth

end

/-- Reads a term. -/
def term (scope : Scope) : Nat → Procedure Operand :=
  chain scope .term

/-- Reads an expression. -/
def expression (scope : Scope) : Nat → Procedure Operand :=
  chain scope .expression

/-- Reads an assignment, unless something else than `=` follows the name. -/
def assignment (scope : Scope) (depth : Nat) : Procedure (Option Statement) := do
  let name ← step Rule.identifier
  step Rule.skipBlanks
  if ← step (Rule.eat '=') then
    let operand ← expression scope depth
    let value ← step (Rule.asValue operand)
    return some (.assignment name value)
  else
    return none

/-- The result of the first procedure if it has one.  Otherwise the second one reads from the same
place; if the first one is unfinished, so is the whole. -/
def orElse {α : Type} (first : Procedure (Option α)) (second : Procedure α) : Procedure α :=
  fun state =>
    Option.bind (first state) fun
      | (.ok (some result), after) => some (.ok result, after)
      | _ => second state

/-- Reads a statement. -/
def statement (scope : Scope) (depth : Nat) : Procedure Statement := do
  step Rule.skipBlanks
  orElse (assignment scope depth) (return .expression (← expression scope depth))

/-- Reads a whole line. -/
def line (scope : Scope) (depth : Nat) : Procedure Statement := do
  let result ← statement scope depth
  step Rule.lineEnd
  return result

/-! ## Following a rule -/

/-- From the state, the procedure is finished, and with the outcome of the rule. -/
def Follows {α : Type} (procedure : Procedure α) (rule : Rule α) (state : State) : Prop :=
  procedure state = some (Rule.ended (rule state))

variable {α β : Type} {state : State} {scope : Scope}

theorem follows_pure (result : α) (state : State) :
    Follows (pure result) (pure result) state :=
  rfl

theorem follows_step (rule : Rule α) (state : State) : Follows (step rule) rule state :=
  rfl

theorem Follows.bind {procedure : Procedure α} {rule : Rule α} {next : α → Procedure β}
    {rest : α → Rule β} (follows : Follows procedure rule state)
    (onward : ∀ result after, rule state = .ok result after →
      Follows (next result) (rest result) after) :
    Follows (procedure >>= next) (rule >>= rest) state := by
  have unfolded : (procedure >>= next) state =
      (procedure state).bind fun
        | (.ok result, after) => next result after
        | (.error error, after) => some (.error error, after) := by
    change (procedure state >>= _) = _
    congr 1
    funext ⟨result, after⟩
    cases result <;> rfl
  rw [Follows, unfolded, follows]
  cases outcome : rule state with
  | ok result after =>
      rw [Rule.bind_of_ok outcome]
      exact onward result after outcome
  | error error after =>
      rw [Rule.bind_of_error outcome]
      rfl

/-- What is done at the character behind blanks. -/
theorem skipBlanks_peek (next : Option Char → Procedure β) (state : State) :
    (do step Rule.skipBlanks; next (← step Rule.peek) : Procedure β) state =
      next state.cursor.skipBlanks.peek ⟨state.cursor.skipBlanks, state.effects⟩ :=
  rfl

/-- From every state whose text the bound covers, the procedure follows the rule if five calls may
be nested for every character ahead, and some more. -/
def FollowsWithin (bound more : Nat) (procedure : Nat → Procedure α) (rule : Rule α) : Prop :=
  ∀ depth (state : State), state.cursor.ahead.length ≤ bound →
    5 * state.cursor.ahead.length + more ≤ depth → Follows (procedure depth) rule state

/-! ## Chains -/

section Chains

variable {kind : Chain} {rule : Rule Operand} {bound depth : Nat}

theorem follows_chainFrom_of_none {loops : Nat} {left : Operand}
    (fits : state.cursor.ahead.length ≤ loops)
    (ends : state.cursor.skipBlanks.peek.bind kind.operator? = none) :
    Follows (chainFrom scope kind left (depth + 1))
      (Rule.chainFrom kind.operator? rule loops left) state := by
  rw [Follows, Rule.chainFrom_of_none fits ends, chainFrom, skipBlanks_peek, ends]
  rfl

theorem follows_chainFrom (paired : FollowsWithin bound 5 (operand scope kind) rule)
    (shortens : Rule.Shortens rule) {loops : Nat} (within : loops ≤ bound) (left : Operand) :
    FollowsWithin loops 1 (chainFrom scope kind left)
      (Rule.chainFrom kind.operator? rule loops left) := by
  intro depth state fits enough
  obtain ⟨depth, rfl⟩ := Nat.exists_eq_succ_of_ne_zero (show depth ≠ 0 by omega)
  induction loops generalizing left state depth with
  | zero =>
      have nothing : state.cursor.skipBlanks.peek = none :=
        Cursor.peek_skipBlanks_of_length (Nat.le_zero.mp fits)
      exact follows_chainFrom_of_none fits (by rw [nothing, Option.bind_none])
  | succ loops ih =>
      cases next : state.cursor.skipBlanks.peek.bind kind.operator? with
      | none => exact follows_chainFrom_of_none fits next
      | some operator =>
          obtain ⟨symbol, found, known⟩ := Option.bind_eq_some_iff.mp next
          have shorter := Cursor.length_bump_lt found
          rw [chainFrom, Follows, skipBlanks_peek, next, Rule.chainFrom_of_some found known]
          have steps := paired depth ⟨state.cursor.skipBlanks.bump.2, state.effects⟩
            (by simp only; omega) (by simp only; omega)
          refine steps.bind fun right reached read => ?_
          have fewer := shortens _ _ _ read
          refine (follows_step (Rule.asValue left) _).bind fun leftValue after checked => ?_
          obtain ⟨_, rfl⟩ := Rule.asValue_eq_ok checked
          refine (follows_step (Rule.asValue right) _).bind fun rightValue after checked => ?_
          obtain ⟨_, rfl⟩ := Rule.asValue_eq_ok checked
          simp only at fewer
          obtain ⟨depth, rfl⟩ := Nat.exists_eq_succ_of_ne_zero (show depth ≠ 0 by omega)
          exact ih (by omega) _ reached (by omega) depth (by omega)

theorem follows_chain {more : Nat} (few : more ≤ 5)
    (paired : FollowsWithin bound more (operand scope kind) rule)
    (shortens : Rule.Shortens rule) :
    FollowsWithin bound (more + 1) (chain scope kind)
      (Rule.chain kind.operator? rule bound) := by
  intro depth state fits enough
  obtain ⟨depth, rfl⟩ := Nat.exists_eq_succ_of_ne_zero (show depth ≠ 0 by omega)
  rw [chain]
  refine (paired depth state fits (by omega)).bind fun left after read => ?_
  have fewer := shortens _ _ _ read
  have operands : FollowsWithin bound 5 (operand scope kind) rule :=
    fun depth state fits enough => paired depth state fits (by omega)
  exact follows_chainFrom operands shortens (Nat.le_refl _) left depth after (by omega) (by omega)

end Chains

/-! ## Factors -/

/-- The characters by which a factor is known for what it is. -/
def factorMarks : List Char :=
  ['"', '+', '-', '(']

section Factors

variable {bound depth : Nat} {factor content : Rule Operand}

theorem follows_termOf (paired : FollowsWithin bound 2 (Procedure.factor scope) factor)
    (sound : Rule.Sound scope .factor factor) :
    FollowsWithin bound 4 (term scope) (Rule.termOf factor bound) := by
  have operands : FollowsWithin bound 3 (operand scope .term) factor := by
    intro depth state fits enough
    obtain ⟨depth, rfl⟩ := Nat.exists_eq_succ_of_ne_zero (show depth ≠ 0 by omega)
    exact paired depth state fits (by omega)
  exact follows_chain (by decide) operands (sound.shortens (by simp))

theorem follows_expressionOf (paired : FollowsWithin bound 2 (Procedure.factor scope) factor)
    (sound : Rule.Sound scope .factor factor) :
    FollowsWithin bound 6 (expression scope) (Rule.expressionOf factor bound) := by
  have operands : FollowsWithin bound 5 (operand scope .expression) (Rule.termOf factor bound) := by
    intro depth state fits enough
    obtain ⟨depth, rfl⟩ := Nat.exists_eq_succ_of_ne_zero (show depth ≠ 0 by omega)
    exact follows_termOf paired sound depth state fits (by omega)
  exact follows_chain (by decide) operands ((Rule.termOf_sound sound).shortens (by simp))

theorem follows_argumentsFrom (paired : FollowsWithin bound 6 (expression scope) content)
    (shortens : Rule.Shortens content) {loops : Nat} (within : loops ≤ bound) :
    FollowsWithin loops 7 (argumentsFrom scope) (Rule.argumentsFrom content loops) := by
  intro depth state fits enough
  induction loops generalizing state depth with
  | zero =>
      obtain ⟨depth, rfl⟩ := Nat.exists_eq_succ_of_ne_zero (show depth ≠ 0 by omega)
      rw [argumentsFrom]
      refine (paired depth state (by omega) (by omega)).bind fun operand after read => ?_
      exact absurd (shortens _ _ _ read) (by omega)
  | succ loops ih =>
      obtain ⟨depth, rfl⟩ := Nat.exists_eq_succ_of_ne_zero (show depth ≠ 0 by omega)
      rw [argumentsFrom]
      refine (paired depth state (by omega) (by omega)).bind fun operand after read => ?_
      have fewer := shortens _ _ _ read
      refine (follows_step Rule.skipBlanks after).bind fun _ cleared skipped => ?_
      obtain ⟨_, rfl⟩ := EStateM.Result.ok.inj skipped
      refine (follows_step (Rule.eat ',') _).bind fun comma start ate => ?_
      obtain ⟨onward, _⟩ := Rule.eat_eq_ok ate
      cases comma with
      | false => exact follows_pure _ start
      | true =>
          refine (ih (by omega) depth start (by omega) (by omega)).bind fun others last _ => ?_
          exact follows_pure _ last

theorem follows_arguments (paired : FollowsWithin bound 6 (expression scope) content)
    (shortens : Rule.Shortens content) :
    FollowsWithin bound 8 (arguments scope) (Rule.arguments content bound) := by
  intro depth state fits enough
  obtain ⟨depth, rfl⟩ := Nat.exists_eq_succ_of_ne_zero (show depth ≠ 0 by omega)
  have skipped := (Cursor.Slides.skipBlanks state.cursor).length_le
  rw [arguments, Rule.arguments, Follows, skipBlanks_peek, Rule.skipBlanks_bind, Rule.peek_bind]
  simp only
  by_cases closes : state.cursor.skipBlanks.peek = some ')'
  · rw [if_pos closes, if_pos closes]
    exact (follows_step Rule.closingParen _).bind fun _ last _ => follows_pure _ last
  · rw [if_neg closes, if_neg closes]
    have list : Follows (argumentsFrom scope depth) (Rule.argumentsFrom content bound)
        ⟨state.cursor.skipBlanks, state.effects⟩ :=
      follows_argumentsFrom paired shortens (Nat.le_refl _) depth _ (by simp only; omega)
        (by simp only; omega)
    refine list.bind fun operands after _ => ?_
    exact (follows_step Rule.closingParen after).bind fun _ last _ => follows_pure _ last

theorem follows_nameOrCall (paired : FollowsWithin bound 6 (expression scope) content)
    (shortens : Rule.Shortens content) :
    FollowsWithin (bound + 1) 1 (nameOrCall scope) (Rule.nameOrCall scope content bound) := by
  intro depth state fits enough
  obtain ⟨depth, rfl⟩ := Nat.exists_eq_succ_of_ne_zero (show depth ≠ 0 by omega)
  rw [nameOrCall]
  refine (follows_step Rule.identifier state).bind fun name after read => ?_
  have fewer := Rule.shortens_identifier _ _ _ read
  refine (follows_step Rule.skipBlanks after).bind fun _ cleared skipped => ?_
  obtain ⟨_, rfl⟩ := EStateM.Result.ok.inj skipped
  refine (follows_step (Rule.eat '(') _).bind fun opens start ate => ?_
  cases opens with
  | false => exact follows_step _ start
  | true =>
      have opened := Rule.length_lt_of_eat ate
      refine (follows_arguments paired shortens depth start (by omega) (by omega)).bind
        fun operands last _ => ?_
      cases Builtin.lookup? name with
      | none => exact follows_step _ last
      | some builtin => exact follows_step _ last

/-- Unless a mark tells what a factor is, it is a name, a call or a number. -/
theorem factorWithin_of_unmarked
    (unmarked : ∀ mark ∈ factorMarks, state.cursor.skipBlanks.peek ≠ some mark) :
    (state.cursor.skipBlanks.peek.any isNameChar = true →
      Rule.factorWithin scope (bound + 1) state =
        Rule.nameOrCall scope (Rule.expressionOf (Rule.factorWithin scope bound) bound) bound
          ⟨state.cursor.skipBlanks, state.effects⟩) ∧
    (¬ state.cursor.skipBlanks.peek.any isNameChar = true →
      Rule.factorWithin scope (bound + 1) state =
        (do return .value (.number (← Rule.number)) : Rule Operand)
          ⟨state.cursor.skipBlanks, state.effects⟩) := by
  rw [Rule.factorWithin, Rule.skipBlanks_bind, Rule.peek_bind]
  dsimp only
  generalize state.cursor.skipBlanks.peek = next at unmarked ⊢
  split
  case h_1 | h_2 | h_3 | h_4 => exact absurd rfl (unmarked _ (by decide))
  case h_5 => exact ⟨fun letter => by rw [if_pos letter], fun other => by rw [if_neg other]⟩

theorem factor_of_unmarked
    (unmarked : ∀ mark ∈ factorMarks, state.cursor.skipBlanks.peek ≠ some mark) :
    (state.cursor.skipBlanks.peek.any isNameChar = true →
      Procedure.factor scope (depth + 1) state =
        nameOrCall scope depth ⟨state.cursor.skipBlanks, state.effects⟩) ∧
    (¬ state.cursor.skipBlanks.peek.any isNameChar = true →
      Procedure.factor scope (depth + 1) state =
        (do return .value (.number (← step Rule.number)) : Procedure Operand)
          ⟨state.cursor.skipBlanks, state.effects⟩) := by
  rw [Procedure.factor, skipBlanks_peek]
  generalize state.cursor.skipBlanks.peek = next at unmarked ⊢
  split
  case h_1 | h_2 | h_3 | h_4 => exact absurd rfl (unmarked _ (by decide))
  case h_5 => exact ⟨fun letter => by rw [if_pos letter], fun other => by rw [if_neg other]⟩

theorem follows_number (state : State) :
    Follows (do return .value (.number (← step Rule.number)) : Procedure Operand)
      (do return .value (.number (← Rule.number))) state :=
  (follows_step Rule.number state).bind fun _ after _ => follows_pure _ after

/-- Behind the next character, less is ahead than the bound allows for, and five calls less are
needed. -/
theorem FollowsWithin.bump {more : Nat} {procedure : Nat → Procedure α} {rule : Rule α}
    {character : Char} (paired : FollowsWithin bound more procedure rule) (few : more ≤ 6)
    (found : state.cursor.skipBlanks.peek = some character)
    (fits : state.cursor.ahead.length ≤ bound + 1)
    (enough : 5 * state.cursor.ahead.length + 1 ≤ depth) :
    Follows (do step Rule.bump; procedure depth) (do Rule.bump; rule)
      ⟨state.cursor.skipBlanks, state.effects⟩ := by
  have shorter := Cursor.length_bump_lt found
  exact paired depth ⟨state.cursor.skipBlanks.bump.2, state.effects⟩ (by simp only; omega)
    (by simp only; omega)

theorem follows_factorWithin (scope : Scope) (bound : Nat) :
    FollowsWithin bound 2 (Procedure.factor scope) (Rule.factorWithin scope bound) := by
  induction bound with
  | zero =>
      intro depth state fits enough
      obtain ⟨depth, rfl⟩ := Nat.exists_eq_succ_of_ne_zero (show depth ≠ 0 by omega)
      have nothing := Cursor.peek_skipBlanks_of_length (Nat.le_zero.mp fits)
      -- With nothing ahead, the bound might as well be larger.
      have larger : Rule.factorWithin scope 0 state = Rule.factorWithin scope 1 state :=
        (Rule.factorWithin_of_none nothing).trans (Rule.factorWithin_of_none nothing).symm
      rw [Follows, larger, Procedure.factor, Rule.factorWithin, skipBlanks_peek,
        Rule.skipBlanks_bind, Rule.peek_bind, nothing]
      exact follows_number _
  | succ bound ih =>
      intro depth state fits enough
      obtain ⟨depth, rfl⟩ := Nat.exists_eq_succ_of_ne_zero (show depth ≠ 0 by omega)
      have inside := follows_expressionOf ih (Rule.factorWithin_sound scope bound)
      by_cases marked : ∃ mark ∈ factorMarks, state.cursor.skipBlanks.peek = some mark
      · obtain ⟨mark, member, found⟩ := marked
        rw [Procedure.factor, Rule.factorWithin, Follows, skipBlanks_peek, Rule.skipBlanks_bind,
          Rule.peek_bind, found]
        simp only [factorMarks, List.mem_cons, List.not_mem_nil, or_false] at member
        obtain rfl | rfl | rfl | rfl := member
        · exact (follows_step Rule.string _).bind fun _ after _ => follows_pure _ after
        · exact ih.bump (by decide) found fits (by omega)
        · refine (ih.bump (by decide) found fits (by omega)).bind fun operand after _ => ?_
          exact (follows_step (Rule.asValue operand) after).bind fun _ last _ => follows_pure _ last
        · refine (inside.bump (by decide) found fits (by omega)).bind fun operand after _ => ?_
          refine (follows_step Rule.skipBlanks after).bind fun _ cleared _ => ?_
          exact (follows_step Rule.closingParen cleared).bind fun _ last _ => follows_pure _ last
      · have unmarked : ∀ mark ∈ factorMarks, state.cursor.skipBlanks.peek ≠ some mark :=
          fun mark member found => marked ⟨mark, member, found⟩
        have skipped := (Cursor.Slides.skipBlanks state.cursor).length_le
        by_cases letter : state.cursor.skipBlanks.peek.any isNameChar = true
        · have shortens : Rule.Shortens (Rule.expressionOf (Rule.factorWithin scope bound) bound) :=
            (Rule.expressionOf_sound (Rule.factorWithin_sound scope bound)).shortens (by simp)
          rw [Follows, (factor_of_unmarked unmarked).1 letter,
            (factorWithin_of_unmarked unmarked).1 letter]
          exact follows_nameOrCall inside shortens depth _ (by simp only; omega)
            (by simp only; omega)
        · rw [Follows, (factor_of_unmarked unmarked).2 letter,
            (factorWithin_of_unmarked unmarked).2 letter]
          exact follows_number _

end Factors

/-! ## The rules of the grammar -/

variable {depth : Nat}

theorem follows_factor (scope : Scope) (enough : 5 * state.cursor.ahead.length + 2 ≤ depth) :
    Follows (factor scope depth) (Rule.factor scope) state :=
  follows_factorWithin scope _ depth state (Nat.le_refl _) enough

theorem follows_term (scope : Scope) (enough : 5 * state.cursor.ahead.length + 4 ≤ depth) :
    Follows (term scope depth) (Rule.term scope) state :=
  follows_termOf (follows_factorWithin scope _) (Rule.factorWithin_sound scope _) depth state
    (Nat.le_refl _) enough

theorem follows_expression (scope : Scope)
    (enough : 5 * state.cursor.ahead.length + 6 ≤ depth) :
    Follows (expression scope depth) (Rule.expression scope) state :=
  follows_expressionOf (follows_factorWithin scope _) (Rule.factorWithin_sound scope _) depth state
    (Nat.le_refl _) enough

theorem follows_assignment (scope : Scope)
    (enough : 5 * state.cursor.ahead.length + 6 ≤ depth) :
    Follows (assignment scope depth) (Rule.assignment scope) state := by
  refine (follows_step Rule.identifier state).bind fun name after read => ?_
  have fewer := Rule.shortens_identifier _ _ _ read
  refine (follows_step Rule.skipBlanks after).bind fun _ cleared skipped => ?_
  obtain ⟨_, rfl⟩ := EStateM.Result.ok.inj skipped
  refine (follows_step (Rule.eat '=') _).bind fun equals start ate => ?_
  obtain ⟨onward, _⟩ := Rule.eat_eq_ok ate
  cases equals with
  | false => exact follows_pure none start
  | true =>
      refine (follows_expression scope (by omega)).bind fun operand reached _ => ?_
      exact (follows_step (Rule.asValue operand) reached).bind fun _ last _ => follows_pure _ last

theorem Follows.orElse {first : Procedure (Option α)} {second : Procedure α}
    {rule : Rule (Option α)} {other : Rule α} (attempt : Follows first rule state)
    (otherwise : Follows second other state) :
    Follows (orElse first second) (Rule.orElse rule other) state := by
  rw [Follows, Procedure.orElse, attempt, Rule.orElse]
  cases rule state with
  | error error after => exact otherwise
  | ok result after =>
      cases result with
      | none => exact otherwise
      | some found => rfl

theorem follows_statement (scope : Scope)
    (enough : 5 * state.cursor.ahead.length + 6 ≤ depth) :
    Follows (statement scope depth) (Rule.statement scope) state := by
  have skipped := (Cursor.Slides.skipBlanks state.cursor).length_le
  have fewer : 5 * state.cursor.skipBlanks.ahead.length + 6 ≤ depth := by omega
  refine (follows_step Rule.skipBlanks state).bind fun _ start cleared => ?_
  obtain ⟨_, rfl⟩ := EStateM.Result.ok.inj cleared
  refine (follows_assignment scope fewer).orElse ?_
  exact (follows_expression scope fewer).bind fun operand after _ => follows_pure _ after

theorem follows_line (scope : Scope) (enough : 5 * state.cursor.ahead.length + 6 ≤ depth) :
    Follows (line scope depth) (Rule.line scope) state := by
  refine (follows_statement scope enough).bind fun result after _ => ?_
  exact (follows_step Rule.lineEnd after).bind fun _ last _ => follows_pure result last

end Procedure

end LineCalc
