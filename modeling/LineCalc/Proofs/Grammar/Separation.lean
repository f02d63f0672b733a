import LineCalc.Proofs.Grammar.Literal
import LineCalc.Proofs.Lexeme

/-!
# Lexemes of sentences

In a sentence, one of two tokens side by side is a symbol.  No token can therefore be extended into
what follows it, and the lexemes of a sentence are its tokens.
-/

namespace LineCalc

/-- The token is no symbol. -/
def Token.Word (token : Token) : Prop :=
  ∀ character, token ≠ .symbol character

theorem Token.Word.visible {token : Token} (word : token.Word) : token.Visible := by
  cases token with
  | number whole places => exact Token.visible_number whole places
  | text content unquoted => exact Token.visible_text content unquoted
  | name letters => exact Token.visible_name letters
  | symbol character => exact absurd rfl (word character)

/-- A token that is no symbol is followed by a symbol, if by anything. -/
inductive Separated : List Token → Prop
  | nil : Separated []
  | symbol {character : Char} {others : List Token} : character ∈ marks → Separated others →
      Separated (.symbol character :: others)
  | last {token : Token} : token.Word → Separated [token]
  | before {token : Token} {character : Char} {others : List Token} : token.Word →
      Separated (.symbol character :: others) → Separated (token :: .symbol character :: others)

namespace Separated

variable {left right : List Token} {character : Char}

/-- A symbol separates what stands before it from what stands behind it. -/
theorem join (leftSeparated : Separated left) (known : character ∈ marks)
    (rightSeparated : Separated right) : Separated (left ++ .symbol character :: right) := by
  induction leftSeparated with
  | nil => exact .symbol known rightSeparated
  | symbol mark _ ih => exact .symbol mark ih
  | last word => exact .before word (.symbol known rightSeparated)
  | before word _ ih => exact .before word ih

theorem enclose (separated : Separated left) :
    Separated (.symbol '(' :: (left ++ [.symbol ')'])) :=
  .symbol (by decide) (separated.join (by decide) .nil)

end Separated

/-- The tokens of a phrase are separated. -/
theorem Tree.separated {category : Category} (tree : Tree category) : Separated tree.tokens := by
  induction tree with
  | number | text | name => exact .last nofun
  | call letters arguments ih => exact .before nofun ih.enclose
  | plus operand ih | minus operand ih => exact .symbol (by decide) ih
  | group content ih => exact ih.enclose
  | factor only ih | term only ih | last only ih | filled list ih => exact ih
  | multiplicative left symbol operator known right leftIh rightIh =>
      have written := Operator.mem_of_multiplicative known
      exact leftIh.join ((by decide : ['*', '/', '%'] ⊆ marks) written) rightIh
  | additive left symbol operator known right leftIh rightIh =>
      have written := Operator.mem_of_additive known
      exact leftIh.join ((by decide : ['+', '-'] ⊆ marks) written) rightIh
  | more first others firstIh othersIh => exact firstIh.join (by decide) othersIh
  | empty => exact .nil

namespace Cursor

variable {before middle after : Cursor} {token : Token} {tokens : List Token}

/-! ## Single tokens -/

theorem Meets.of_name {letters : Run isNameChar}
    (passes : before.Passes letters.characters after) (stops : after.Stops isNameChar) :
    before.Meets letters.characters after := by
  refine ⟨?_, passes, letters.nonempty⟩
  obtain ⟨first, others, split, letter⟩ := letters.exists_cons
  have taken : before.ahead.takeWhile isNameChar = letters.characters :=
    congrArg Prod.fst (takeWhile_of_passes passes letters.all stops)
  have ahead : before.ahead = first :: (others ++ after.ahead) := by
    rw [passes.ahead, split, List.cons_append]
  rw [← taken, ahead, Text.firstPiece_of_letter letter]

theorem Meets.of_text {content : List Char} {unquoted : '"' ∉ content}
    (passes : before.Passes (Token.text content unquoted).characters after) :
    before.Meets (Token.text content unquoted).characters after := by
  refine ⟨?_, passes, by simp [Token.characters]⟩
  have all := forall_ne_quote unquoted
  have closed : Text.untilQuote (content ++ '"' :: after.ahead) = content ++ ['"'] := by
    rw [Text.untilQuote, List.takeWhile_append_of_pos all, List.dropWhile_append_of_pos all]
    simp
  rw [passes.ahead, Token.characters, List.cons_append, List.append_assoc,
    Text.firstPiece_of_quote, List.singleton_append, closed]

theorem Meets.of_number {whole : Run Char.isDigit} {places : Option (Run Char.isDigit)}
    (passes : before.Passes (Token.number whole places).characters after)
    (stops : after.Stops Char.isDigit) (noPoint : after.peek ≠ some '.') :
    before.Meets (Token.number whole places).characters after := by
  obtain ⟨first, others, split, digit⟩ := whole.exists_cons
  -- Behind the whole digits, the point and its digits are taken if they are there.
  have numeral {rest : List Char} {middle : Cursor} (digits : before.Passes whole.characters middle)
      (ends : middle.Stops Char.isDigit) (behind : Text.pointed middle.ahead = rest) :
      Text.firstPiece before.ahead = whole.characters ++ rest := by
    have taken := takeWhile_of_passes digits whole.all ends
    have first : before.ahead.takeWhile Char.isDigit = whole.characters := congrArg Prod.fst taken
    have dropped : before.ahead.dropWhile Char.isDigit = middle.ahead :=
      congrArg (fun reached => reached.2.ahead) taken
    rw [digits.ahead, split, List.cons_append, Text.firstPiece_of_digit digit, ← List.cons_append,
      ← split, ← digits.ahead, Text.numeral, first, dropped, behind]
  cases places with
  | none =>
      refine ⟨?_, passes, whole.nonempty⟩
      have alone : Text.pointed after.ahead = [] := if_neg fun point => noPoint point.1
      rw [numeral passes stops alone, List.append_nil]
      rfl
  | some places =>
      refine ⟨?_, passes, by simp [Token.characters]⟩
      obtain ⟨middle, digits, point⟩ := Passes.divide passes
      obtain ⟨inside, _, behind⟩ := point.divide_cons
      obtain ⟨next, _, begins, nextDigit⟩ := places.exists_cons
      have ends : middle.Stops Char.isDigit := stops_of_peek (peek_of_passes point) (by decide)
      have tail : middle.ahead.tail.takeWhile Char.isDigit = places.characters := by
        rw [point.ahead, List.cons_append, List.tail_cons, ← behind.ahead]
        exact congrArg Prod.fst (takeWhile_of_passes behind places.all stops)
      have pointed : Text.pointed middle.ahead = '.' :: places.characters := by
        rw [← tail]
        refine if_pos ⟨peek_of_passes point, ?_⟩
        simp [point.ahead, begins, nextDigit]
      exact numeral digits ends pointed

/-- A word that a mark follows, if anything, is a lexeme. -/
theorem Meets.of_word (word : token.Word) (passes : before.Passes token.characters after)
    (ends : after.Ends marks) : before.Meets token.characters after := by
  cases token with
  | number whole places =>
      have stops : after.Stops Char.isDigit :=
        ends.stops (forall_mem_of_all (by decide)) fun _ => isBlank_of_isDigit
      have noPoint : after.Stops (· == '.') :=
        ends.stops (forall_mem_of_all (by decide)) fun character equal => by simp_all; decide
      exact .of_number passes stops fun point => by simpa using noPoint '.' point
  | text content unquoted => exact .of_text passes
  | name letters =>
      exact .of_name passes
        (ends.stops (forall_mem_of_all (by decide)) fun _ => isBlank_of_isNameChar)
  | symbol character => exact absurd rfl (word character)

theorem Meets.of_symbol {character : Char} (known : character ∈ marks)
    (passes : before.Passes [character] after) : before.Meets [character] after := by
  refine ⟨?_, passes, by simp⟩
  rw [passes.ahead, List.singleton_append, Text.firstPiece_of_mark known]

/-! ## Sentences -/

/-- The first token of a sentence is its first lexeme. -/
theorem Spells.meets (spells : before.Spells (token :: tokens) after)
    (separated : Separated (token :: tokens)) (ends : after.Ends []) :
    token.Visible ∧ Separated tokens ∧
      ∃ middle, before.skipBlanks.Meets token.characters middle ∧ middle.Spells tokens after := by
  cases separated with
  | symbol known separated =>
      have visible := Token.visible_symbol (isBlank_of_mark known)
      obtain ⟨middle, passes, others⟩ := spells.divide_cons visible
      exact ⟨visible, separated, middle, .of_symbol known passes, others⟩
  | last word =>
      have visible := word.visible
      obtain ⟨middle, passes, others⟩ := spells.divide_cons visible
      obtain rfl := others.eq_of_nil
      exact ⟨visible, .nil, middle, .of_word word passes (ends.mono (by simp)), others⟩
  | before word separated =>
      have visible := word.visible
      obtain ⟨middle, passes, others⟩ := spells.divide_cons visible
      cases separated with
      | symbol known rest =>
          obtain ⟨_, mark, _⟩ := others.divide_cons (Token.visible_symbol (isBlank_of_mark known))
          exact ⟨visible, .symbol known rest, middle, .of_word word passes (.of_passes mark known),
            others⟩
      | last notSymbol | before notSymbol _ => exact absurd rfl (notSymbol _)

theorem peek_of_ends {cursor : Cursor} (ends : cursor.Ends []) : cursor.skipBlanks.peek = none :=
  Option.eq_none_iff_forall_ne_some.mpr fun next found => absurd (ends next found) (by simp)

/-- The lexemes of a sentence are its tokens. -/
theorem Spells.lexemes (spells : before.Spells tokens after) (separated : Separated tokens)
    (ends : after.Ends []) : before.lexemes = tokens.map Token.characters := by
  induction tokens generalizing before with
  | nil =>
      obtain rfl := spells.eq_of_nil
      rw [← lexemes_skipBlanks, lexemes_of_peek (peek_of_ends ends), List.map_nil]
  | cons token tokens ih =>
      obtain ⟨⟨first, characters, split, visible⟩, rest, middle, meets, others⟩ :=
        spells.meets separated ends
      rw [split] at meets
      rw [← lexemes_skipBlanks, meets.lexemes visible, ih others rest, List.map_cons, split]

end Cursor

end LineCalc
