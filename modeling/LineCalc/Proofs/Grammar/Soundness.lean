import LineCalc.Proofs.Builtin.Call
import LineCalc.Proofs.Grammar.Meaning
import LineCalc.Proofs.Grammar.Step

/-!
# Soundness of the rules

Whatever a rule accepts was derived: between the cursors stand the tokens of a tree, whose meaning
is the result.  Blanks may follow the tokens, since some rules step over blanks before they find
that nothing follows which they could use.
-/

namespace LineCalc

/-- Between the two states a tree of the category is written, and the result is what it means. -/
def Derived (scope : Scope) (category : Category) (before : State) (result : category.Result)
    (after : State) : Prop :=
  ∃ (tree : Tree category) (middle : Cursor),
    before.cursor.Spells tree.tokens middle ∧ middle.Slides after.cursor ∧
      tree.meaning scope before.effects = .ok (result, after.effects)

namespace Rule

/-- A rule that accepts nothing but phrases of a category. -/
def Sound (scope : Scope) (category : Category) (rule : Rule category.Result) : Prop :=
  ∀ before result after, rule before = .ok result after →
    Derived scope category before result after

variable {scope : Scope} {before after : State}

/-! ## Tokens -/

theorem string_eq_ok {result : String} (opening : before.cursor.peek = some '"')
    (accepted : string before = .ok result after) :
    ∃ content, ∃ unquoted : '"' ∉ content, result = String.ofList content ∧
      before.cursor.Passes (Token.text content unquoted).characters after.cursor ∧
      after.effects = before.effects := by
  rw [string, position_bind] at accepted
  obtain ⟨inside, opens, stepped⟩ := bump_bind opening _
  rw [stepped] at accepted
  obtain ⟨content, behind, body, all, _, stepped⟩ := takeWhile_bind _ _ _
  rw [stepped] at accepted
  have unquoted : '"' ∉ content := fun member => by simpa using all _ member
  rcases eat_bind '"' _ _ with ⟨last, closes, stepped⟩ | ⟨_, stepped⟩
  · rw [stepped] at accepted
    obtain ⟨rfl, rfl⟩ := pure_eq_ok accepted
    exact ⟨content, unquoted, rfl, opens.trans (body.trans closes), rfl⟩
  · rw [stepped] at accepted
    exact absurd accepted not_throw_eq_ok

theorem identifier_eq_ok {result : String} (accepted : identifier before = .ok result after) :
    ∃ letters : Run isNameChar, result = String.ofList letters.characters ∧
      before.cursor.skipBlanks.Passes letters.characters after.cursor ∧
      after.effects = before.effects := by
  rw [identifier, skipBlanks_bind, position_bind] at accepted
  obtain ⟨characters, behind, passes, all, _, stepped⟩ := takeWhile_bind _ _ _
  rw [stepped] at accepted
  by_cases empty : characters = []
  · rw [if_pos empty] at accepted
    exact absurd accepted not_throw_eq_ok
  · rw [if_neg empty] at accepted
    obtain ⟨rfl, rfl⟩ := pure_eq_ok accepted
    exact ⟨⟨characters, empty, all⟩, rfl, passes, rfl⟩

theorem fraction_eq_ok {result : List Char} (accepted : fraction before = .ok result after) :
    (result = [] ∧ after = before) ∨
      ∃ places : Run Char.isDigit, result = places.characters ∧
        before.cursor.Passes ('.' :: places.characters) after.cursor ∧
        after.effects = before.effects := by
  by_cases follows : before.cursor.peek = some '.' ∧ (before.cursor.peekAt 1).any Char.isDigit
  · rw [fraction, if_pos follows] at accepted
    obtain ⟨point, digit⟩ := follows
    obtain ⟨cursor, passes, stepped⟩ := bump_bind point _
    rw [stepped] at accepted
    obtain ⟨digits, all, stops, same⟩ := takeWhile_eq_ok accepted
    have nonempty : result ≠ [] := by
      rintro rfl
      have ahead : before.cursor.peekAt 1 = after.cursor.peek := by
        rw [← digits.eq_of_nil]
        simp [Cursor.peekAt, Cursor.peek, passes.ahead, List.head?_eq_getElem?]
      rw [ahead] at digit
      cases next : after.cursor.peek with
      | none => simp [next] at digit
      | some character => simp [next, stops character next] at digit
    exact .inr ⟨⟨result, nonempty, all⟩, rfl, passes.trans digits, same⟩
  · rw [fraction, if_neg follows] at accepted
    simp only [EStateM.Result.ok.injEq] at accepted
    exact .inl ⟨accepted.1.symm, accepted.2.symm⟩

theorem number_eq_ok {result : Double} (accepted : number before = .ok result after) :
    ∃ whole places, result = (Decimal.ofDigits (Run.characters whole)
        (places.elim [] Run.characters)).toDouble false ∧
      before.cursor.skipBlanks.Passes (Token.number whole places).characters after.cursor ∧
      after.effects = before.effects := by
  rw [number, skipBlanks_bind, position_bind] at accepted
  obtain ⟨digits, behind, passes, all, _, stepped⟩ := takeWhile_bind _ _ _
  rw [stepped] at accepted
  by_cases empty : digits = []
  · rw [if_pos empty] at accepted
    exact absurd accepted not_throw_eq_ok
  · rw [if_neg empty] at accepted
    obtain ⟨places, middle, read, accepted⟩ := bind_eq_ok accepted
    obtain ⟨rfl, rfl⟩ := pure_eq_ok accepted
    let whole : Run Char.isDigit := ⟨digits, empty, all⟩
    rcases fraction_eq_ok read with ⟨rfl, rfl⟩ | ⟨places, rfl, point, same⟩
    · exact ⟨whole, none, rfl, passes, rfl⟩
    · exact ⟨whole, some places, rfl, passes.trans point, same⟩

theorem closingParen_eq_ok (accepted : closingParen before = .ok () after) :
    before.cursor.Passes [')'] after.cursor ∧ after.effects = before.effects := by
  rw [closingParen, position_bind] at accepted
  rcases eat_bind ')' _ before with ⟨cursor, passes, stepped⟩ | ⟨_, stepped⟩
  · rw [stepped] at accepted
    obtain ⟨_, rfl⟩ := pure_eq_ok accepted
    exact ⟨passes, rfl⟩
  · rw [stepped] at accepted
    exact absurd accepted not_throw_eq_ok

/-! ## Chains -/

/-- What holds of the operand before a loop and is kept by every turn holds of its result. -/
theorem chainFrom_invariant {operator? : Char → Option Operator} {operand : Rule Operand}
    (Holds : Operand → State → Prop)
    (skips : ∀ left state, Holds left state → Holds left ⟨state.cursor.skipBlanks, state.effects⟩)
    (turns : ∀ left state symbol operator start right reached leftValue rightValue,
      Holds left state → state.cursor.Passes [symbol] start → operator? symbol = some operator →
      operand ⟨start, state.effects⟩ = .ok right reached →
      left.asValue = .ok leftValue → right.asValue = .ok rightValue →
      Holds (.value (operator.apply leftValue rightValue)) reached)
    {loops : Nat} {left result : Operand} (holds : Holds left before)
    (accepted : chainFrom operator? operand loops left before = .ok result after) :
    Holds result after := by
  -- The invariant is about the operand so far, which every turn of the loop replaces.
  induction loops generalizing left before with
  | zero =>
      obtain ⟨rfl, rfl⟩ := pure_eq_ok accepted
      exact holds
  | succ loops ih =>
      have cleared := skips left before holds
      rw [chainFrom, skipBlanks_bind, peek_bind] at accepted
      cases next : before.cursor.skipBlanks.peek with
      | none =>
          rw [next] at accepted
          obtain ⟨rfl, rfl⟩ := pure_eq_ok accepted
          exact cleared
      | some symbol =>
          cases known : operator? symbol with
          | none =>
              simp only [next, Option.bind_some, known] at accepted
              obtain ⟨rfl, rfl⟩ := pure_eq_ok accepted
              exact cleared
          | some operator =>
              simp only [next, Option.bind_some, known] at accepted
              have found : (State.mk before.cursor.skipBlanks before.effects).cursor.peek =
                some symbol := next
              obtain ⟨start, passes, stepped⟩ := bump_bind found _
              rw [stepped] at accepted
              obtain ⟨right, reached, read, accepted⟩ := bind_eq_ok accepted
              obtain ⟨leftValue, _, leftChecked, accepted⟩ := bind_eq_ok accepted
              obtain ⟨leftIs, rfl⟩ := asValue_eq_ok leftChecked
              obtain ⟨rightValue, _, rightChecked, accepted⟩ := bind_eq_ok accepted
              obtain ⟨rightIs, rfl⟩ := asValue_eq_ok rightChecked
              exact ih (turns left _ symbol operator start right _ leftValue rightValue cleared
                passes known read leftIs rightIs) accepted

end Rule

namespace Derived

variable {scope : Scope} {before middle after : State} {category : Category}

theorem slide {result : category.Result} (derived : Derived scope category before result middle)
    (slides : middle.cursor.Slides after.cursor) (same : after.effects = middle.effects) :
    Derived scope category before result after := by
  obtain ⟨tree, reached, spells, slid, meaning⟩ := derived
  exact ⟨tree, reached, spells, slid.trans slides, by rw [meaning, same]⟩

/-- Blanks may be put before a phrase that cannot be empty. -/
theorem behind {result : category.Result}
    (derived : Derived scope category ⟨before.cursor.skipBlanks, before.effects⟩ result after)
    (nonempty : category ≠ .arguments) : Derived scope category before result after := by
  obtain ⟨tree, reached, spells, slides, meaning⟩ := derived
  obtain ⟨token, tokens, split, _⟩ := (tree.begins nonempty).exists_cons
  refine ⟨tree, reached, ?_, slides, meaning⟩
  rw [split] at spells ⊢
  exact .behind (.skipBlanks before.cursor) spells

/-- A term with one more operator and factor. -/
theorem multiplicative {left right : Operand} {symbol : Char} {operator : Operator}
    {start : Cursor} {leftValue rightValue : Value}
    (leftDerived : Derived scope .term before left middle)
    (passes : middle.cursor.Passes [symbol] start)
    (known : Operator.multiplicative? symbol = some operator)
    (rightDerived : Derived scope .factor ⟨start, middle.effects⟩ right after)
    (leftIs : left.asValue = .ok leftValue) (rightIs : right.asValue = .ok rightValue) :
    Derived scope .term before (.value (operator.apply leftValue rightValue)) after := by
  obtain ⟨leftTree, leftEnd, leftSpells, leftSlides, leftMeaning⟩ := leftDerived
  obtain ⟨rightTree, rightEnd, rightSpells, rightSlides, rightMeaning⟩ := rightDerived
  exact ⟨.multiplicative leftTree symbol operator known rightTree, rightEnd,
    leftSpells.trans ((Cursor.Spells.symbol leftSlides passes).trans rightSpells), rightSlides,
    Meaning.combine_of_ok leftMeaning rightMeaning leftIs rightIs⟩

/-- An expression with one more operator and term. -/
theorem additive {left right : Operand} {symbol : Char} {operator : Operator}
    {start : Cursor} {leftValue rightValue : Value}
    (leftDerived : Derived scope .expression before left middle)
    (passes : middle.cursor.Passes [symbol] start)
    (known : Operator.additive? symbol = some operator)
    (rightDerived : Derived scope .term ⟨start, middle.effects⟩ right after)
    (leftIs : left.asValue = .ok leftValue) (rightIs : right.asValue = .ok rightValue) :
    Derived scope .expression before (.value (operator.apply leftValue rightValue)) after := by
  obtain ⟨leftTree, leftEnd, leftSpells, leftSlides, leftMeaning⟩ := leftDerived
  obtain ⟨rightTree, rightEnd, rightSpells, rightSlides, rightMeaning⟩ := rightDerived
  exact ⟨.additive leftTree symbol operator known rightTree, rightEnd,
    leftSpells.trans ((Cursor.Spells.symbol leftSlides passes).trans rightSpells), rightSlides,
    Meaning.combine_of_ok leftMeaning rightMeaning leftIs rightIs⟩

end Derived

namespace Rule

variable {scope : Scope} {factor : Rule Operand} {bound : Nat}

theorem termOf_sound (sound : Sound scope .factor factor) :
    Sound scope .term (termOf factor bound) := by
  intro before result after accepted
  obtain ⟨first, middle, read, accepted⟩ := bind_eq_ok accepted
  obtain ⟨tree, reached, spells, slides, meaning⟩ := sound before first middle read
  have derived : Derived scope .term before first middle :=
    ⟨.factor tree, reached, spells, slides, meaning⟩
  refine chainFrom_invariant (Derived scope .term before) ?_ ?_ derived accepted
  · exact fun left state derived => derived.slide (.skipBlanks state.cursor) rfl
  · intro left state symbol operator start right reached leftValue rightValue leftDerived passes
      known read leftIs rightIs
    exact leftDerived.multiplicative passes known (sound _ right reached read) leftIs rightIs

theorem expressionOf_sound (sound : Sound scope .factor factor) :
    Sound scope .expression (expressionOf factor bound) := by
  intro before result after accepted
  obtain ⟨first, middle, read, accepted⟩ := bind_eq_ok accepted
  obtain ⟨tree, reached, spells, slides, meaning⟩ := termOf_sound sound before first middle read
  have derived : Derived scope .expression before first middle :=
    ⟨.term tree, reached, spells, slides, meaning⟩
  refine chainFrom_invariant (Derived scope .expression before) ?_ ?_ derived accepted
  · exact fun left state derived => derived.slide (.skipBlanks state.cursor) rfl
  · intro left state symbol operator start right reached leftValue rightValue leftDerived passes
      known read leftIs rightIs
    exact leftDerived.additive passes known (termOf_sound sound _ right reached read) leftIs
      rightIs

/-! ## Arguments, names and calls -/

theorem argumentsFrom_sound {expression : Rule Operand} {loops : Nat}
    (sound : Sound scope .expression expression) :
    Sound scope .list (argumentsFrom expression loops) := by
  induction loops with
  | zero =>
      intro before result after accepted
      obtain ⟨operand, middle, read, accepted⟩ := bind_eq_ok accepted
      obtain ⟨rfl, rfl⟩ := pure_eq_ok accepted
      obtain ⟨tree, reached, spells, slides, meaning⟩ := sound before operand middle read
      exact ⟨.last tree, reached, spells, slides, Meaning.bind_of_ok meaning⟩
  | succ loops ih =>
      intro before result after accepted
      rw [argumentsFrom] at accepted
      obtain ⟨operand, middle, read, accepted⟩ := bind_eq_ok accepted
      obtain ⟨tree, reached, spells, slides, meaning⟩ := sound before operand middle read
      have cleared := slides.trans (.skipBlanks middle.cursor)
      rw [skipBlanks_bind] at accepted
      rcases eat_bind ',' _ _ with ⟨cursor, comma, stepped⟩ | ⟨_, stepped⟩
      · rw [stepped] at accepted
        obtain ⟨operands, last, readOthers, accepted⟩ := bind_eq_ok accepted
        obtain ⟨rfl, rfl⟩ := pure_eq_ok accepted
        obtain ⟨others, othersEnd, othersSpells, othersSlides, othersMeaning⟩ :=
          ih _ operands last readOthers
        have commaSpells := Cursor.Spells.symbol cleared comma
        refine ⟨.more tree others, othersEnd, spells.trans (commaSpells.trans othersSpells),
          othersSlides, ?_⟩
        rw [Tree.meaning, Meaning.bind_of_ok meaning, Meaning.bind_of_ok othersMeaning]
        rfl
      · rw [stepped] at accepted
        obtain ⟨rfl, rfl⟩ := pure_eq_ok accepted
        exact ⟨.last tree, reached, spells, cleared, Meaning.bind_of_ok meaning⟩

theorem arguments_eq_ok {expression : Rule Operand} {operands : List Operand}
    {before after : State} (sound : Sound scope .expression expression)
    (accepted : arguments expression bound before = .ok operands after) :
    ∃ tree : Tree .arguments,
      before.cursor.Spells (tree.tokens ++ [.symbol ')']) after.cursor ∧
      tree.meaning scope before.effects = .ok (operands, after.effects) := by
  rw [arguments, skipBlanks_bind, peek_bind] at accepted
  have cleared := Cursor.Slides.skipBlanks before.cursor
  split at accepted
  · obtain ⟨_, middle, closed, accepted⟩ := bind_eq_ok accepted
    obtain ⟨rfl, rfl⟩ := pure_eq_ok accepted
    obtain ⟨closes, same⟩ := closingParen_eq_ok closed
    exact ⟨.empty, Cursor.Spells.symbol cleared closes, by rw [same]; rfl⟩
  · obtain ⟨_, middle, read, accepted⟩ := bind_eq_ok accepted
    obtain ⟨_, last, closed, accepted⟩ := bind_eq_ok accepted
    obtain ⟨rfl, rfl⟩ := pure_eq_ok accepted
    obtain ⟨closes, same⟩ := closingParen_eq_ok closed
    obtain ⟨tree, reached, spells, slides, meaning⟩ :=
      (argumentsFrom_sound sound _ _ middle read).behind (by simp)
    exact ⟨.filled tree, spells.trans (.symbol slides closes), by rw [same]; exact meaning⟩

theorem named_eq_ok {name : String} {result : Operand} {before after : State}
    (accepted : named scope name before = .ok result after) :
    after.cursor = before.cursor ∧
      Meaning.named scope name before.effects = .ok (result, after.effects) := by
  unfold named at accepted
  unfold Meaning.named
  cases bound : scope.bindings.get? name with
  | some value =>
      rw [bound] at accepted
      obtain ⟨rfl, rfl⟩ := pure_eq_ok accepted
      exact ⟨rfl, rfl⟩
  | none =>
      cases known : Builtin.lookup? name with
      | some builtin =>
          rw [bound, known] at accepted
          obtain ⟨rfl, rfl⟩ := pure_eq_ok accepted
          exact ⟨rfl, rfl⟩
      | none =>
          rw [bound, known] at accepted
          exact absurd accepted not_throw_eq_ok

theorem nameOrCall_sound {expression : Rule Operand}
    (sound : Sound scope .expression expression) :
    Sound scope .factor (nameOrCall scope expression bound) := by
  intro before result after accepted
  obtain ⟨name, behind, read, accepted⟩ := bind_eq_ok accepted
  obtain ⟨letters, rfl, passes, same⟩ := identifier_eq_ok read
  have nameSpells : before.cursor.Spells [.name letters] behind.cursor :=
    .behind (.skipBlanks before.cursor) (.exact passes)
  have cleared := Cursor.Slides.skipBlanks behind.cursor
  rw [skipBlanks_bind] at accepted
  rcases eat_bind '(' _ _ with ⟨opened, opens, stepped⟩ | ⟨_, stepped⟩
  · rw [stepped] at accepted
    obtain ⟨operands, last, read, accepted⟩ := bind_eq_ok accepted
    obtain ⟨tree, spells, meaning⟩ := arguments_eq_ok sound read
    cases known : Builtin.lookup? (String.ofList letters.characters) with
    | none =>
        rw [known] at accepted
        exact absurd accepted not_throw_eq_ok
    | some builtin =>
        rw [known] at accepted
        obtain ⟨still, called⟩ := call_eq_ok accepted
        refine ⟨.call letters tree, last.cursor, ?_, still ▸ .refl _, ?_⟩
        · exact nameSpells.trans ((Cursor.Spells.symbol cleared opens).trans spells)
        · rw [Tree.meaning, ← same, Meaning.bind_of_ok meaning]
          exact Meaning.called_of_ok known called
  · rw [stepped] at accepted
    obtain ⟨still, meaning⟩ := named_eq_ok accepted
    exact ⟨.name letters, behind.cursor, nameSpells, still ▸ cleared, same ▸ meaning⟩

/-! ## Factors -/

theorem number_sound : Sound scope .factor (do return .value (.number (← number))) := by
  intro before result after accepted
  obtain ⟨amount, middle, read, accepted⟩ := bind_eq_ok accepted
  obtain ⟨rfl, rfl⟩ := pure_eq_ok accepted
  obtain ⟨whole, places, rfl, passes, same⟩ := number_eq_ok read
  exact ⟨.number whole places, middle.cursor, .behind (.skipBlanks _) (.exact passes), .refl _,
    by rw [same]; rfl⟩

theorem string_sound {before after : State} {result : Operand}
    (found : before.cursor.peek = some '"')
    (accepted : (do return .value (.text (← string)) : Rule Operand) before = .ok result after) :
    Derived scope .factor before result after := by
  obtain ⟨content, middle, read, accepted⟩ := bind_eq_ok accepted
  obtain ⟨rfl, rfl⟩ := pure_eq_ok accepted
  obtain ⟨characters, unquoted, rfl, passes, same⟩ := string_eq_ok found read
  exact ⟨.text characters unquoted, middle.cursor, .exact passes, .refl _, by rw [same]; rfl⟩

theorem plus_sound {before after : State} {result : Operand} (sound : Sound scope .factor factor)
    (found : before.cursor.peek = some '+')
    (accepted : (do bump; factor : Rule Operand) before = .ok result after) :
    Derived scope .factor before result after := by
  obtain ⟨start, plus, stepped⟩ := bump_bind found _
  rw [stepped] at accepted
  obtain ⟨tree, reached, spells, slides, meaning⟩ := sound _ result after accepted
  exact ⟨.plus tree, reached, (Cursor.Spells.symbol (.refl _) plus).trans spells, slides, meaning⟩

theorem minus_sound {before after : State} {result : Operand} (sound : Sound scope .factor factor)
    (found : before.cursor.peek = some '-')
    (accepted : (do
      bump
      let operand ← factor
      return .value (← asValue operand).neg : Rule Operand) before = .ok result after) :
    Derived scope .factor before result after := by
  obtain ⟨start, minus, stepped⟩ := bump_bind found _
  rw [stepped] at accepted
  obtain ⟨operand, middle, read, accepted⟩ := bind_eq_ok accepted
  obtain ⟨value, _, checked, accepted⟩ := bind_eq_ok accepted
  obtain ⟨isValue, rfl⟩ := asValue_eq_ok checked
  obtain ⟨rfl, rfl⟩ := pure_eq_ok accepted
  obtain ⟨tree, reached, spells, slides, meaning⟩ := sound _ operand middle read
  refine ⟨.minus tree, reached, (Cursor.Spells.symbol (.refl _) minus).trans spells, slides, ?_⟩
  rw [Tree.meaning, Meaning.bind_of_ok meaning,
    Meaning.bind_of_ok (Meaning.asValue_of_ok isValue)]
  rfl

theorem group_sound {expression : Rule Operand} {before after : State} {result : Operand}
    (sound : Sound scope .expression expression) (found : before.cursor.peek = some '(')
    (accepted : (do
      bump
      let operand ← expression
      skipBlanks
      closingParen
      return operand : Rule Operand) before = .ok result after) :
    Derived scope .factor before result after := by
  obtain ⟨start, opens, stepped⟩ := bump_bind found _
  rw [stepped] at accepted
  obtain ⟨operand, middle, read, accepted⟩ := bind_eq_ok accepted
  rw [skipBlanks_bind] at accepted
  obtain ⟨_, last, closed, accepted⟩ := bind_eq_ok accepted
  obtain ⟨rfl, rfl⟩ := pure_eq_ok accepted
  obtain ⟨closes, same⟩ := closingParen_eq_ok closed
  obtain ⟨tree, reached, spells, slides, meaning⟩ := sound _ operand middle read
  have closing := Cursor.Spells.symbol (slides.trans (.skipBlanks middle.cursor)) closes
  exact ⟨.group tree, last.cursor,
    (Cursor.Spells.symbol (.refl _) opens).trans (spells.trans closing), .refl _,
    by rw [same]; exact meaning⟩

theorem factorWithin_sound (scope : Scope) (bound : Nat) :
    Sound scope .factor (factorWithin scope bound) := by
  induction bound with
  | zero => exact number_sound
  | succ bound ih =>
      intro before result after accepted
      refine Derived.behind ?_ (by simp)
      rw [factorWithin, skipBlanks_bind, peek_bind] at accepted
      generalize found : (State.mk before.cursor.skipBlanks before.effects).cursor.peek = next
        at accepted
      split at accepted
      · exact string_sound found accepted
      · exact plus_sound ih found accepted
      · exact minus_sound ih found accepted
      · exact group_sound (expressionOf_sound ih) found accepted
      · split at accepted
        · exact nameOrCall_sound (expressionOf_sound ih) _ result after accepted
        · exact number_sound _ result after accepted

theorem expression_sound (scope : Scope) : Sound scope .expression (expression scope) :=
  fun before => expressionOf_sound (factorWithin_sound scope before.cursor.ahead.length) before

end Rule

end LineCalc
