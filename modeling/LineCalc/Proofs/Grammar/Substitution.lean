import LineCalc.Proofs.Bindings
import LineCalc.Proofs.Grammar.Evaluation
import LineCalc.Proofs.Grammar.Separation

/-!
# Substitution

An expression in parentheses may be put in place of a name.  In the tree this changes the names that
are not called; among the tokens, those that no opening parenthesis follows.  If the expression
means a value and does nothing else, the tree means what it meant with the name assigned that value.
-/

namespace LineCalc

namespace Tree

/-- The tree with an expression in parentheses in place of a name, where the name is not called. -/
def substitute (letters : Run isNameChar) (content : Tree .expression) :
    {category : Category} → Tree category → Tree category
  | _, number whole places => number whole places
  | _, text content unquoted => text content unquoted
  | _, name other => if other.characters = letters.characters then group content else name other
  | _, call other arguments => call other (substitute letters content arguments)
  | _, plus operand => plus (substitute letters content operand)
  | _, minus operand => minus (substitute letters content operand)
  | _, group inside => group (substitute letters content inside)
  | _, factor only => factor (substitute letters content only)
  | _, multiplicative left symbol operator known right =>
      multiplicative (substitute letters content left) symbol operator known
        (substitute letters content right)
  | _, term only => term (substitute letters content only)
  | _, additive left symbol operator known right =>
      additive (substitute letters content left) symbol operator known
        (substitute letters content right)
  | _, last only => last (substitute letters content only)
  | _, more first others => more (substitute letters content first)
      (substitute letters content others)
  | _, empty => empty
  | _, filled list => filled (substitute letters content list)

end Tree

/-- The tokens with others in place of a word, where no opening parenthesis follows. -/
def substituteTokens (word : List Char) (replacement : List Token) : List Token → List Token
  | [] => []
  | token :: others =>
      (if token.characters = word ∧ others.head?.map Token.characters ≠ some ['('] then
        replacement
      else
        [token]) ++ substituteTokens word replacement others

/-! ## Tokens of a tree after substitution -/

section Tokens

variable {letters : Run isNameChar} {replacement left right : List Token} {character : Char}

theorem Run.ne_of_not_letter (letters : Run isNameChar) {first : Char} {characters : List Char}
    (other : isNameChar first = false) : first :: characters ≠ letters.characters := by
  intro same
  obtain ⟨head, _, split, letter⟩ := letters.exists_cons
  rw [split] at same
  obtain rfl := (List.cons.inj same).1
  exact absurd letter (by simp [other])

theorem substituteTokens_of_symbol (known : character ∈ marks) (others : List Token) :
    substituteTokens letters.characters replacement (.symbol character :: others) =
      .symbol character :: substituteTokens letters.characters replacement others := by
  have noLetter : ∀ mark ∈ marks, isNameChar mark = false := forall_mem_of_all (by decide)
  rw [substituteTokens, if_neg]
  · rfl
  · exact fun same => letters.ne_of_not_letter (noLetter character known) same.1

/-- A symbol that does not open a parenthesis divides the tokens. -/
theorem substituteTokens_append (known : character ∈ marks) (closes : character ≠ '(') :
    substituteTokens letters.characters replacement (left ++ .symbol character :: right) =
      substituteTokens letters.characters replacement left ++
        .symbol character :: substituteTokens letters.characters replacement right := by
  induction left with
  | nil => exact substituteTokens_of_symbol known right
  | cons token left ih =>
      rw [List.cons_append, substituteTokens, substituteTokens, ih, List.append_assoc]
      congr 1
      cases left with
      | nil => simp [Token.characters, closes]
      | cons next left => rfl

theorem substituteTokens_enclose (inside : List Token) :
    substituteTokens letters.characters replacement (.symbol '(' :: (inside ++ [.symbol ')'])) =
      .symbol '(' ::
        (substituteTokens letters.characters replacement inside ++ [.symbol ')']) := by
  rw [substituteTokens_of_symbol (by decide), substituteTokens_append (by decide) (by decide),
    substituteTokens]

theorem substituteTokens_single (token : Token) :
    substituteTokens letters.characters replacement [token] =
      if token.characters = letters.characters then replacement else [token] := by
  simp [substituteTokens]

end Tokens

/-- The tokens of the tree after substitution are its tokens after substitution. -/
theorem Tree.tokens_substitute {category : Category} (letters : Run isNameChar)
    (content : Tree .expression) (tree : Tree category) :
    (substitute letters content tree).tokens =
      substituteTokens letters.characters (Tree.group content).tokens tree.tokens := by
  induction tree with
  | number whole places =>
      obtain ⟨first, others, split, digit⟩ := whole.exists_cons
      have other : (Token.number whole places).characters ≠ letters.characters := by
        cases places with
        | none =>
            rw [Token.characters, split]
            exact letters.ne_of_not_letter (isNameChar_of_isDigit digit)
        | some places =>
            rw [Token.characters, split]
            exact letters.ne_of_not_letter (isNameChar_of_isDigit digit)
      exact ((substituteTokens_single _).trans (if_neg other)).symm
  | text content unquoted =>
      have other : (Token.text content unquoted).characters ≠ letters.characters :=
        letters.ne_of_not_letter (by decide)
      exact ((substituteTokens_single _).trans (if_neg other)).symm
  | name other =>
      refine Eq.trans ?_ (substituteTokens_single _).symm
      rw [substitute]
      by_cases same : other.characters = letters.characters
      · rw [if_pos same]
        exact (if_pos same).symm
      · rw [if_neg same]
        exact (if_neg same).symm
  | call other arguments ih =>
      -- A parenthesis follows the name, so that the name stays whatever it is.
      have called : substituteTokens letters.characters (Tree.group content).tokens
          (.name other :: .symbol '(' :: (arguments.tokens ++ [.symbol ')'])) =
          .name other :: substituteTokens letters.characters (Tree.group content).tokens
            (.symbol '(' :: (arguments.tokens ++ [.symbol ')'])) := by
        rw [substituteTokens, if_neg (by simp [Token.characters]), List.singleton_append]
      refine Eq.trans ?_ called.symm
      rw [substituteTokens_enclose, ← ih]
      rfl
  | plus operand ih | minus operand ih =>
      refine Eq.trans ?_ (substituteTokens_of_symbol (by decide) _).symm
      rw [← ih]
      rfl
  | group inside ih =>
      refine Eq.trans ?_ (substituteTokens_enclose _).symm
      rw [← ih]
      rfl
  | factor only ih | term only ih | last only ih | filled list ih => exact ih
  | multiplicative left symbol operator known right leftIh rightIh =>
      have written := Operator.mem_of_multiplicative known
      have divides : ∀ mark ∈ ['*', '/', '%'], mark ∈ marks ∧ mark ≠ '(' :=
        forall_mem_of_all (by decide)
      obtain ⟨mark, closes⟩ := divides symbol written
      refine Eq.trans ?_ (substituteTokens_append mark closes).symm
      rw [← leftIh, ← rightIh]
      rfl
  | additive left symbol operator known right leftIh rightIh =>
      have written := Operator.mem_of_additive known
      have divides : ∀ mark ∈ ['+', '-'], mark ∈ marks ∧ mark ≠ '(' :=
        forall_mem_of_all (by decide)
      obtain ⟨mark, closes⟩ := divides symbol written
      refine Eq.trans ?_ (substituteTokens_append mark closes).symm
      rw [← leftIh, ← rightIh]
      rfl
  | more first others firstIh othersIh =>
      refine Eq.trans ?_ (substituteTokens_append (by decide) (by decide)).symm
      rw [← firstIh, ← othersIh]
      rfl
  | empty => rfl

/-- If the expression means a value and does nothing else, the tree means what it means where the
name has that value. -/
theorem Tree.meaning_substitute {category : Category} {bindings : Bindings} {noise : Noise}
    {letters : Run isNameChar} {content : Tree .expression} {value : Value}
    (means : content.meaning ⟨bindings, noise⟩ = pure (.value value)) (tree : Tree category) :
    (substitute letters content tree).meaning ⟨bindings, noise⟩ =
      tree.meaning ⟨bindings.insert (String.ofList letters.characters) value, noise⟩ := by
  induction tree with
  | number | text | empty => rfl
  | name other =>
      rw [substitute]
      by_cases same : other.characters = letters.characters
      · rw [if_pos same, meaning, meaning, means, Meaning.named, Bindings.get?_insert,
          if_pos (congrArg String.ofList same)]
      · have different : String.ofList other.characters ≠ String.ofList letters.characters :=
          fun equal => same (String.ofList_injective equal)
        rw [if_neg same, meaning, meaning, Meaning.named, Meaning.named, Bindings.get?_insert,
          if_neg different]
  | call other arguments ih =>
      rw [substitute, meaning, meaning, ih]
      rfl
  | plus operand ih => exact ih
  | group inside ih => exact ih
  | factor only ih => exact ih
  | term only ih => exact ih
  | filled list ih => exact ih
  | minus operand ih => rw [substitute, meaning, meaning, ih]
  | multiplicative left symbol operator known right leftIh rightIh
  | additive left symbol operator known right leftIh rightIh =>
      rw [substitute, meaning, meaning, leftIh, rightIh]
  | last only ih => rw [substitute, meaning, meaning, ih]
  | more first others firstIh othersIh => rw [substitute, meaning, meaning, firstIh, othersIh]

end LineCalc
