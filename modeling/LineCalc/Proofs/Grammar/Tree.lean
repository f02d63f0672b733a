import LineCalc.Proofs.Grammar.Token

/-!
# Derivation trees

The grammar of lines, with one constructor for each production.  A line is a sentence if the tokens
of a tree make it up.
-/

namespace LineCalc

/-- The syntactic categories of the grammar. -/
inductive Category where
  | factor
  | term
  | expression
  /-- Expressions with commas between them. -/
  | list
  /-- What stands between the parentheses of a call. -/
  | arguments

/-- What a phrase amounts to: the arguments of a call to several operands, all else to one. -/
@[reducible]
def Category.Result : Category → Type
  | factor | term | expression => Operand
  | list | arguments => List Operand

/-- A derivation of a phrase. -/
inductive Tree : Category → Type where
  | number (whole : Run Char.isDigit) (places : Option (Run Char.isDigit)) : Tree .factor
  | text (content : List Char) (unquoted : '"' ∉ content) : Tree .factor
  | name (letters : Run isNameChar) : Tree .factor
  | call (letters : Run isNameChar) (arguments : Tree .arguments) : Tree .factor
  | plus (operand : Tree .factor) : Tree .factor
  | minus (operand : Tree .factor) : Tree .factor
  | group (content : Tree .expression) : Tree .factor
  | factor (only : Tree .factor) : Tree .term
  | multiplicative (left : Tree .term) (symbol : Char) (operator : Operator)
      (known : Operator.multiplicative? symbol = some operator) (right : Tree .factor) : Tree .term
  | term (only : Tree .term) : Tree .expression
  | additive (left : Tree .expression) (symbol : Char) (operator : Operator)
      (known : Operator.additive? symbol = some operator) (right : Tree .term) : Tree .expression
  | last (only : Tree .expression) : Tree .list
  | more (first : Tree .expression) (others : Tree .list) : Tree .list
  | empty : Tree .arguments
  | filled (list : Tree .list) : Tree .arguments

namespace Tree

/-- The tokens that a tree derives. -/
def tokens : {category : Category} → Tree category → List Token
  | _, number whole places => [.number whole places]
  | _, text content unquoted => [.text content unquoted]
  | _, name letters => [.name letters]
  | _, call letters arguments =>
      .name letters :: .symbol '(' :: (arguments.tokens ++ [.symbol ')'])
  | _, plus operand => .symbol '+' :: operand.tokens
  | _, minus operand => .symbol '-' :: operand.tokens
  | _, group content => .symbol '(' :: (content.tokens ++ [.symbol ')'])
  | _, factor only => only.tokens
  | _, multiplicative left symbol _ _ right => left.tokens ++ .symbol symbol :: right.tokens
  | _, term only => only.tokens
  | _, additive left symbol _ _ right => left.tokens ++ .symbol symbol :: right.tokens
  | _, last only => only.tokens
  | _, more first others => first.tokens ++ .symbol ',' :: others.tokens
  | _, empty => []
  | _, filled list => list.tokens

end Tree

/-! ## How phrases begin -/

theorem Operator.mem_of_multiplicative {symbol : Char} {operator : Operator}
    (known : multiplicative? symbol = some operator) : symbol ∈ ['*', '/', '%'] := by
  unfold multiplicative? at known
  split at known <;> simp_all

theorem Operator.mem_of_additive {symbol : Char} {operator : Operator}
    (known : additive? symbol = some operator) : symbol ∈ ['+', '-'] := by
  unfold additive? at known
  split at known <;> simp_all

theorem Operator.visible_of_multiplicative {symbol : Char} {operator : Operator}
    (known : multiplicative? symbol = some operator) : (Token.symbol symbol).Visible := by
  have visible : ∀ character ∈ ['*', '/', '%'], Text.isBlank character = false :=
    forall_mem_of_all (by decide)
  exact Token.visible_symbol (visible symbol (mem_of_multiplicative known))

theorem Operator.visible_of_additive {symbol : Char} {operator : Operator}
    (known : additive? symbol = some operator) : (Token.symbol symbol).Visible := by
  have visible : ∀ character ∈ ['+', '-'], Text.isBlank character = false :=
    forall_mem_of_all (by decide)
  exact Token.visible_symbol (visible symbol (mem_of_additive known))

/-- How a phrase begins: with a factor, in which a name is followed by a parenthesis that opens, an
operator or a comma, if by anything. -/
inductive Begins : List Token → Prop
  | number (whole : Run Char.isDigit) (places : Option (Run Char.isDigit)) (others : List Token) :
      Begins (.number whole places :: others)
  | text (content : List Char) (unquoted : '"' ∉ content) (others : List Token) :
      Begins (.text content unquoted :: others)
  | symbol {character : Char} (others : List Token) (opens : character ∈ ['+', '-', '(']) :
      Begins (.symbol character :: others)
  | name (letters : Run isNameChar) : Begins [.name letters]
  | followed (letters : Run isNameChar) {character : Char} (others : List Token)
      (follows : character ∈ ['(', '*', '/', '%', '+', '-', ',']) :
      Begins (.name letters :: .symbol character :: others)

namespace Begins

variable {tokens : List Token}

theorem append {character : Char} (begins : Begins tokens)
    (follows : character ∈ ['(', '*', '/', '%', '+', '-', ',']) (others : List Token) :
    Begins (tokens ++ .symbol character :: others) := by
  cases begins with
  | number whole places => exact .number whole places _
  | text content unquoted => exact .text content unquoted _
  | symbol _ opens => exact .symbol _ opens
  | name letters => exact .followed letters others follows
  | followed letters _ follows => exact .followed letters _ follows

/-- The first token can be seen, and is no parenthesis that closes. -/
theorem exists_cons (begins : Begins tokens) :
    ∃ token others, tokens = token :: others ∧ token.Visible ∧
      token.characters.head? ≠ some ')' := by
  have named (letters : Run isNameChar) :
      (Token.name letters).characters.head? ≠ some ')' := by
    obtain ⟨first, _, split, letter⟩ := letters.exists_cons
    have other : first ≠ ')' := by
      rintro rfl
      exact absurd letter (by decide)
    simpa [Token.characters, split] using other
  cases begins with
  | number whole places others =>
      obtain ⟨first, _, split, digit⟩ := whole.exists_cons
      have other : first ≠ ')' := by
        rintro rfl
        exact absurd digit (by decide)
      refine ⟨_, others, rfl, Token.visible_number whole places, ?_⟩
      cases places <;> simpa [Token.characters, split] using other
  | text content unquoted others =>
      exact ⟨_, others, rfl, Token.visible_text content unquoted, by simp [Token.characters]⟩
  | @symbol character others opens =>
      have known : ∀ symbol ∈ ['+', '-', '('], Text.isBlank symbol = false ∧ symbol ≠ ')' :=
        forall_mem_of_all (by decide)
      obtain ⟨visible, other⟩ := known character opens
      exact ⟨_, others, rfl, Token.visible_symbol visible, by simpa [Token.characters]⟩
  | name letters => exact ⟨_, [], rfl, Token.visible_name letters, named letters⟩
  | followed letters others _ =>
      exact ⟨_, _, rfl, Token.visible_name letters, named letters⟩

end Begins

/-- Every phrase but an empty list of arguments begins with a factor. -/
theorem Tree.begins {category : Category} (tree : Tree category)
    (nonempty : category ≠ .arguments) : Begins tree.tokens := by
  induction tree with
  | number whole places => exact .number whole places []
  | text content unquoted => exact .text content unquoted []
  | name letters => exact .name letters
  | call letters arguments _ => exact .followed letters _ (by decide)
  | plus operand _ | minus operand _ | group content _ => exact .symbol _ (by decide)
  | factor only ih | term only ih | last only ih => exact ih (by simp)
  | multiplicative left symbol operator known right ih _ =>
      have written := Operator.mem_of_multiplicative known
      exact (ih (by simp)).append ((by decide : ['*', '/', '%'] ⊆ _) written) _
  | additive left symbol operator known right ih _ =>
      have written := Operator.mem_of_additive known
      exact (ih (by simp)).append ((by decide : ['+', '-'] ⊆ _) written) _
  | more first others ih _ => exact (ih (by simp)).append (by decide) _
  | empty | filled list _ => exact absurd rfl nonempty

/-! ## Sentences -/

/-- The line consists of the tokens; blanks may follow them. -/
def IsLine (line : String) (tokens : List Token) : Prop :=
  ∃ text blanks, line.toList = text ++ blanks ∧ Spelled tokens text ∧ Blank blanks

/-- The tree derives the whole line as an expression. -/
def Tree.Derives (tree : Tree .expression) (line : String) : Prop :=
  IsLine line tree.tokens

/-- The line assigns to a name what the tree derives. -/
def Tree.DerivesAssignment (letters : Run isNameChar) (tree : Tree .expression)
    (line : String) : Prop :=
  IsLine line (.name letters :: .symbol '=' :: tree.tokens)

end LineCalc
