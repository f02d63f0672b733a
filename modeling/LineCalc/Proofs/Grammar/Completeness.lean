import LineCalc.Proofs.Grammar.Chain

/-!
# Completeness of the rules

Where a tree is written and followed by one of its closers, the rule of its category computes its
meaning.  The proof follows the tree; what is shown of a tree depends on its category.
-/

namespace LineCalc

namespace Rule

/-- What is to be shown of a tree: wherever its tokens stand, its rule computes its meaning. -/
def Reads (scope : Scope) : {category : Category} → Tree category → Prop
  | .factor, tree => ∀ bound before after,
      before.ahead.length ≤ bound → before.Spells tree.tokens after →
      after.Ends Category.factor.closers →
      ∃ stop, after.Slides stop ∧
        (factorWithin scope bound).Computes before stop (tree.meaning scope)
  | .term, tree => ∀ bound before after,
      before.ahead.length ≤ bound → before.Spells tree.tokens after →
      after.Ends Category.factor.closers →
      Enters Operator.multiplicative? (factorWithin scope bound)
        (termOf (factorWithin scope bound) bound) before after (tree.meaning scope)
  | .expression, tree => ∀ bound before after,
      before.ahead.length ≤ bound → before.Spells tree.tokens after →
      after.Ends Category.term.closers →
      Enters Operator.additive? (termOf (factorWithin scope bound) bound)
        (expressionOf (factorWithin scope bound) bound) before after (tree.meaning scope)
  | .list, tree => ∀ bound loops before after,
      before.ahead.length ≤ bound → before.ahead.length ≤ loops → before.Spells tree.tokens after →
      after.Ends Category.list.closers →
      (argumentsFrom (expressionOf (factorWithin scope bound) bound) loops).Computes before
        after.skipBlanks (tree.meaning scope)
  | .arguments, tree => ∀ bound before middle after,
      before.ahead.length ≤ bound → before.Spells tree.tokens middle →
      middle.skipBlanks.Passes [')'] after →
      (arguments (expressionOf (factorWithin scope bound) bound) bound).Computes before after
        (tree.meaning scope)

variable {scope : Scope} {before middle after : Cursor} {bound : Nat}

theorem Reads.computes_term {tree : Tree .term} (reads : Reads scope tree)
    (fits : before.ahead.length ≤ bound) (spells : before.Spells tree.tokens after)
    (ends : after.Ends Category.term.closers) :
    (termOf (factorWithin scope bound) bound).Computes before after.skipBlanks
      (tree.meaning scope) := by
  refine (reads bound before after fits spells (ends.mono (by decide))).computes ?_
  have noOperator : ∀ next ∈ Category.term.closers, Operator.multiplicative? next = none :=
    forall_mem_of_all (by decide)
  exact fun next found => noOperator next (ends next found)

theorem Reads.computes_expression {tree : Tree .expression} (reads : Reads scope tree)
    (fits : before.ahead.length ≤ bound) (spells : before.Spells tree.tokens after)
    (ends : after.Ends Category.expression.closers) :
    (expressionOf (factorWithin scope bound) bound).Computes before after.skipBlanks
      (tree.meaning scope) := by
  refine (reads bound before after fits spells (ends.mono (by decide))).computes ?_
  have noOperator : ∀ next ∈ Category.expression.closers, Operator.additive? next = none :=
    forall_mem_of_all (by decide)
  exact fun next found => noOperator next (ends next found)

/-! ## Factors -/

/-- A factor is read behind blanks, under a bound that is not zero, and leaves less to go. -/
theorem factor_start {token : Token} {tokens : List Token} (fits : before.ahead.length ≤ bound)
    (spells : before.Spells (token :: tokens) after) (visible : token.Visible) :
    ∃ middle smaller, bound = smaller + 1 ∧ before.skipBlanks.Passes token.characters middle ∧
      middle.Spells tokens after ∧ middle.ahead.length ≤ smaller := by
  obtain ⟨middle, passes, spells⟩ := spells.divide_cons visible
  obtain ⟨first, others, split, _⟩ := visible
  have shorter : middle.ahead.length < before.ahead.length :=
    Cursor.length_lt_of_skipBlanks_passes (split ▸ passes)
  obtain ⟨smaller, rfl⟩ := Nat.exists_eq_succ_of_ne_zero (show bound ≠ 0 by omega)
  exact ⟨middle, smaller, rfl, passes, spells, by omega⟩

theorem computes_factorWithin_of_letter {first : Char} {meaning : Meaning Operand}
    (found : before.skipBlanks.peek = some first) (letter : isNameChar first = true)
    (rest : (nameOrCall scope (expressionOf (factorWithin scope bound) bound) bound).Computes
      before.skipBlanks after meaning) :
    (factorWithin scope (bound + 1)).Computes before after meaning := by
  refine (computes_skipBlanks before).followed <| (computes_peek _).followed ?_
  rw [found]
  split
  case h_1 equal | h_2 equal | h_3 equal | h_4 equal =>
    obtain rfl := Option.some.inj equal
    exact absurd letter (by decide)
  case h_5 => simpa [letter] using rest

theorem computes_factorWithin_of_digit {first : Char} {amount : Double}
    (found : before.skipBlanks.peek = some first) (digit : first.isDigit = true)
    (rest : number.Computes before.skipBlanks after (pure amount)) :
    (factorWithin scope (bound + 1)).Computes before after
      (pure (.value (.number amount))) := by
  refine (computes_skipBlanks before).followed <| (computes_peek _).followed ?_
  rw [found]
  have noLetter : isNameChar first = false := isNameChar_of_isDigit digit
  split
  case h_1 equal | h_2 equal | h_3 equal | h_4 equal =>
    obtain rfl := Option.some.inj equal
    exact absurd digit (by decide)
  case h_5 =>
    simp only [Option.any_some, noLetter]
    exact rest.followed (computes_pure _ _)

theorem reads_number (whole : Run Char.isDigit) (places : Option (Run Char.isDigit)) :
    Reads scope (.number whole places) := by
  intro bound before after fits spells ends
  obtain ⟨middle, bound, rfl, passes, spells, shorter⟩ :=
    factor_start fits spells (Token.visible_number whole places)
  obtain rfl := spells.eq_of_nil
  obtain ⟨first, others, split, digit⟩ := whole.exists_cons
  have found : before.skipBlanks.peek = some first := by
    cases places <;> simp [Cursor.peek, passes.ahead, Token.characters, split]
  exact ⟨middle, .refl middle, computes_factorWithin_of_digit found digit
    (computes_number (by rwa [Cursor.skipBlanks_skipBlanks]) ends)⟩

theorem reads_text (content : List Char) (unquoted : '"' ∉ content) :
    Reads scope (.text content unquoted) := by
  intro bound before after fits spells ends
  obtain ⟨middle, bound, rfl, passes, spells, shorter⟩ :=
    factor_start fits spells (Token.visible_text content unquoted)
  obtain rfl := spells.eq_of_nil
  refine ⟨middle, .refl middle, (computes_skipBlanks before).followed <|
    (computes_peek _).followed ?_⟩
  rw [Cursor.peek_of_passes passes]
  exact (computes_string unquoted passes).followed (computes_pure _ _)

theorem reads_name (letters : Run isNameChar) : Reads scope (.name letters) := by
  intro bound before after fits spells ends
  obtain ⟨middle, bound, rfl, passes, spells, shorter⟩ :=
    factor_start fits spells (Token.visible_name letters)
  obtain rfl := spells.eq_of_nil
  obtain ⟨first, others, split, letter⟩ := letters.exists_cons
  have found : before.skipBlanks.peek = some first := by
    simp [Cursor.peek, passes.ahead, Token.characters, split]
  have stops : middle.Stops isNameChar :=
    ends.stops (forall_mem_of_all (by decide)) fun _ => isBlank_of_isNameChar
  refine ⟨middle.skipBlanks, .skipBlanks middle,
    computes_factorWithin_of_letter found letter ?_⟩
  refine (computes_identifier (by rwa [Cursor.skipBlanks_skipBlanks]) stops).followed ?_
  refine (computes_skipBlanks _).followed ?_
  refine (computes_eat_of_ne (ends.peek_ne (by decide))).followed ?_
  exact computes_named scope _ _

theorem reads_call (letters : Run isNameChar) {arguments : Tree .arguments}
    (ih : Reads scope arguments) : Reads scope (.call letters arguments) := by
  intro bound before after fits spells ends
  obtain ⟨middle, bound, rfl, passes, spells, shorter⟩ :=
    factor_start fits spells (Token.visible_name letters)
  obtain ⟨opened, opens, spells⟩ := spells.divide_cons (Token.visible_symbol (by decide))
  obtain ⟨closing, inner, spells⟩ := spells.divide
  obtain ⟨last, closes, spells⟩ := spells.divide_cons (Token.visible_symbol (by decide))
  obtain rfl := spells.eq_of_nil
  obtain ⟨first, others, split, letter⟩ := letters.exists_cons
  have found : before.skipBlanks.peek = some first := by
    simp [Cursor.peek, passes.ahead, Token.characters, split]
  have stops : middle.Stops isNameChar := by
    have parenthesis : middle.Ends ['('] := .of_passes opens (by decide)
    exact parenthesis.stops (forall_mem_of_all (by decide)) fun _ => isBlank_of_isNameChar
  have fewer : opened.ahead.length < middle.ahead.length :=
    Cursor.length_lt_of_skipBlanks_passes opens
  refine ⟨last, .refl last, computes_factorWithin_of_letter found letter ?_⟩
  refine (computes_identifier (by rwa [Cursor.skipBlanks_skipBlanks]) stops).followed ?_
  refine (computes_skipBlanks _).followed <| (computes_eat opens).followed ?_
  refine (ih bound opened closing last (by omega) inner closes).bind fun operands => ?_
  exact computes_called scope last _ operands

theorem reads_plus {operand : Tree .factor} (ih : Reads scope operand) :
    Reads scope (.plus operand) := by
  intro bound before after fits spells ends
  obtain ⟨middle, bound, rfl, passes, spells, shorter⟩ :=
    factor_start fits spells (Token.visible_symbol (by decide))
  obtain ⟨stop, slides, computes⟩ := ih bound middle after shorter spells ends
  refine ⟨stop, slides, (computes_skipBlanks before).followed <|
    (computes_peek _).followed ?_⟩
  rw [Cursor.peek_of_passes passes]
  exact (computes_bump passes).followed computes

theorem reads_minus {operand : Tree .factor} (ih : Reads scope operand) :
    Reads scope (.minus operand) := by
  intro bound before after fits spells ends
  obtain ⟨middle, bound, rfl, passes, spells, shorter⟩ :=
    factor_start fits spells (Token.visible_symbol (by decide))
  obtain ⟨stop, slides, computes⟩ := ih bound middle after shorter spells ends
  refine ⟨stop, slides, (computes_skipBlanks before).followed <|
    (computes_peek _).followed ?_⟩
  rw [Cursor.peek_of_passes passes]
  refine (computes_bump passes).followed <| computes.bind fun result => ?_
  exact (computes_asValue stop result).bind fun value => computes_pure stop _

theorem reads_group {content : Tree .expression} (ih : Reads scope content) :
    Reads scope (.group content) := by
  intro bound before after fits spells ends
  obtain ⟨middle, bound, rfl, passes, spells, shorter⟩ :=
    factor_start fits spells (Token.visible_symbol (by decide))
  obtain ⟨closing, inner, spells⟩ := spells.divide
  obtain ⟨last, closes, spells⟩ := spells.divide_cons (Token.visible_symbol (by decide))
  obtain rfl := spells.eq_of_nil
  have innerEnds : closing.Ends Category.expression.closers := .of_passes closes (by decide)
  have computes := ih.computes_expression shorter inner innerEnds
  refine ⟨last, .refl last, (computes_skipBlanks before).followed <|
    (computes_peek _).followed ?_⟩
  rw [Cursor.peek_of_passes passes]
  exact (computes_bump passes).followed <| computes.through fun operand =>
    (computes_skipBlanks _).followed <|
      (computes_closingParen (by rwa [Cursor.skipBlanks_skipBlanks])).followed <|
      computes_pure last operand

/-! ## Terms and expressions -/

theorem reads_factor {only : Tree .factor} (ih : Reads scope only) :
    Reads scope (.factor only) := by
  intro bound before after fits spells ends
  obtain ⟨stop, slides, computes⟩ := ih bound before after fits spells ends
  exact enters_first computes slides (Nat.le_trans spells.length_le fits)

theorem reads_term {only : Tree .term} (ih : Reads scope only) :
    Reads scope (.term only) := by
  intro bound before after fits spells ends
  exact enters_first (ih.computes_term fits spells ends) (.skipBlanks after)
    (Nat.le_trans spells.length_le fits)

theorem reads_multiplicative {left : Tree .term} {symbol : Char} {operator : Operator}
    {right : Tree .factor} (known : Operator.multiplicative? symbol = some operator)
    (leftIh : Reads scope left) (rightIh : Reads scope right) :
    Reads scope (.multiplicative left symbol operator known right) := by
  intro bound before after fits spells ends
  have written := Operator.mem_of_multiplicative known
  obtain ⟨middle, leftSpells, spells⟩ := spells.divide
  obtain ⟨start, passes, rightSpells⟩ :=
    spells.divide_cons (Operator.visible_of_multiplicative known)
  have leftEnds : middle.Ends Category.factor.closers :=
    .of_passes passes ((by decide : ['*', '/', '%'] ⊆ Category.factor.closers) written)
  have shorter : start.ahead.length < middle.ahead.length :=
    Cursor.length_lt_of_skipBlanks_passes passes
  have startFits : start.ahead.length ≤ bound := by
    have leftLength := leftSpells.length_le
    omega
  obtain ⟨stop, slides, computes⟩ := rightIh bound start after startFits rightSpells ends
  exact (leftIh bound before middle fits leftSpells leftEnds).operator passes known computes
    slides rightSpells.length_le

theorem reads_additive {left : Tree .expression} {symbol : Char} {operator : Operator}
    {right : Tree .term} (known : Operator.additive? symbol = some operator)
    (leftIh : Reads scope left) (rightIh : Reads scope right) :
    Reads scope (.additive left symbol operator known right) := by
  intro bound before after fits spells ends
  have written := Operator.mem_of_additive known
  obtain ⟨middle, leftSpells, spells⟩ := spells.divide
  obtain ⟨start, passes, rightSpells⟩ :=
    spells.divide_cons (Operator.visible_of_additive known)
  have leftEnds : middle.Ends Category.term.closers :=
    .of_passes passes ((by decide : ['+', '-'] ⊆ Category.term.closers) written)
  have shorter : start.ahead.length < middle.ahead.length :=
    Cursor.length_lt_of_skipBlanks_passes passes
  have startFits : start.ahead.length ≤ bound := by
    have leftLength := leftSpells.length_le
    omega
  exact (leftIh bound before middle fits leftSpells leftEnds).operator passes known
    (rightIh.computes_term startFits rightSpells ends) (.skipBlanks after)
    rightSpells.length_le

/-! ## Arguments -/

theorem reads_last {only : Tree .expression} (ih : Reads scope only) :
    Reads scope (.last only) := by
  intro bound loops before after fits enough spells ends
  have computes := ih.computes_expression fits spells (ends.mono (by decide))
  have noComma : after.skipBlanks.peek ≠ some ',' := ends.peek_ne (by decide)
  cases loops with
  | zero => exact computes.bind fun operand => computes_pure _ [operand]
  | succ loops =>
      refine computes.bind fun operand => (computes_skipBlanks _).followed ?_
      rw [Cursor.skipBlanks_skipBlanks]
      exact (computes_eat_of_ne noComma).followed (computes_pure _ [operand])

theorem reads_more {first : Tree .expression} {others : Tree .list}
    (firstIh : Reads scope first) (othersIh : Reads scope others) :
    Reads scope (.more first others) := by
  intro bound loops before after fits enough spells ends
  obtain ⟨middle, firstSpells, spells⟩ := spells.divide
  obtain ⟨start, comma, othersSpells⟩ := spells.divide_cons (Token.visible_symbol (by decide))
  have shorter : start.ahead.length < middle.ahead.length :=
    Cursor.length_lt_of_skipBlanks_passes comma
  have firstLength := firstSpells.length_le
  have firstEnds : middle.Ends Category.expression.closers := .of_passes comma (by decide)
  obtain ⟨loops, rfl⟩ := Nat.exists_eq_succ_of_ne_zero (show loops ≠ 0 by omega)
  refine (firstIh.computes_expression fits firstSpells firstEnds).bind fun operand => ?_
  refine (computes_skipBlanks _).followed ?_
  rw [Cursor.skipBlanks_skipBlanks]
  refine (computes_eat comma).followed ?_
  exact (othersIh bound loops start after (by omega) (by omega) othersSpells ends).bind
    fun operands => computes_pure _ (operand :: operands)

theorem reads_empty : Reads scope .empty := by
  intro bound before middle after fits spells closes
  obtain rfl := spells.eq_of_nil
  refine (computes_skipBlanks before).followed <| (computes_peek _).followed ?_
  rw [if_pos (Cursor.peek_of_passes closes)]
  exact (computes_closingParen closes).followed (computes_pure after [])

theorem reads_filled {list : Tree .list} (ih : Reads scope list) :
    Reads scope (.filled list) := by
  intro bound before middle after fits spells closes
  have ends : middle.Ends Category.list.closers := .of_passes closes (by decide)
  obtain ⟨token, tokens, split, visible, other⟩ := (list.begins (by simp)).exists_cons
  change before.Spells list.tokens middle at spells
  have noClosing : before.skipBlanks.peek ≠ some ')' := by
    rw [split] at spells
    obtain ⟨_, passes, _⟩ := spells.divide_cons visible
    obtain ⟨first, others, characters, _⟩ := visible
    simpa [Cursor.peek, passes.ahead, characters] using other
  have fewer : before.skipBlanks.ahead.length ≤ bound :=
    Nat.le_trans (Cursor.Slides.skipBlanks before).length_le fits
  have inner : before.skipBlanks.Spells list.tokens middle := by
    rw [split] at spells ⊢
    exact spells.skipBlanks visible
  have computes := ih bound bound before.skipBlanks middle fewer fewer inner ends
  refine (computes_skipBlanks before).followed <| (computes_peek _).followed ?_
  rw [if_neg noClosing]
  exact computes.through fun operands =>
    (computes_closingParen closes).followed (computes_pure after operands)

/-! ## All trees -/

/-- Every tree is read for what it means. -/
theorem reads (scope : Scope) {category : Category} (tree : Tree category) :
    Reads scope tree := by
  induction tree with
  | number whole places => exact reads_number whole places
  | text content unquoted => exact reads_text content unquoted
  | name letters => exact reads_name letters
  | call letters arguments ih => exact reads_call letters ih
  | plus operand ih => exact reads_plus ih
  | minus operand ih => exact reads_minus ih
  | group content ih => exact reads_group ih
  | factor only ih => exact reads_factor ih
  | multiplicative left symbol operator known right leftIh rightIh =>
      exact reads_multiplicative known leftIh rightIh
  | term only ih => exact reads_term ih
  | additive left symbol operator known right leftIh rightIh =>
      exact reads_additive known leftIh rightIh
  | last only ih => exact reads_last ih
  | more first others firstIh othersIh => exact reads_more firstIh othersIh
  | empty => exact reads_empty
  | filled list ih => exact reads_filled ih

end Rule

end LineCalc
