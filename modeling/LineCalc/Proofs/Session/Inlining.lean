import LineCalc.Proofs.Grammar.Substitution
import LineCalc.Proofs.Session.Atomic

/-!
# Inlining

Instead of assigning a value to a name, one can put an expression for the value into the line, in
parentheses and wherever the name stands without being called.  The line comes to the same.
-/

namespace LineCalc

/-- The characters of some pieces, with a replacement for a word where the next lexeme is not an
opening parenthesis. -/
def replaceWord (word replacement : List Char) : List Piece → List Char
  | [] => []
  | piece :: others =>
      (if piece.characters = word ∧
          (others.find? Piece.visible).map Piece.characters ≠ some ['('] then
        replacement
      else
        piece.characters) ++ replaceWord word replacement others

/-- The line with a text in parentheses for a name, wherever the name is not called. -/
def inlined (name source line : String) : String :=
  String.ofList (replaceWord name.toList ('(' :: (source.toList ++ [')']))
    (Cursor.ofString line).pieces)

/-! ## Sentences after replacement -/

/-- Blanks may be put before the first token. -/
theorem Spelled.behind {token : Token} {tokens : List Token} {blanks text : List Char}
    (spelled : Spelled (token :: tokens) text) (blank : Blank blanks) :
    Spelled (token :: tokens) (blanks ++ text) := by
  cases spelled with
  | cons _ within others =>
      rw [← List.append_assoc, ← List.append_assoc]
      exact .cons token (blank.append within) others

/-- An expression in parentheses is a group. -/
theorem Tree.Derives.spelled_group {tree : Tree .expression} {source : String}
    (derives : tree.Derives source) :
    Spelled (Tree.group tree).tokens ('(' :: (source.toList ++ [')'])) := by
  obtain ⟨text, blanks, split, spelled, blank⟩ := derives
  have closed : Spelled [.symbol ')'] (blanks ++ [')'] ++ []) := .cons (.symbol ')') blank .nil
  have opened := Spelled.cons (.symbol '(') .nil (spelled.append closed)
  rw [split]
  simpa [Token.characters, tokens] using opened

namespace Cursor

variable {before after : Cursor} {characters word replacement : List Char}

theorem replaceWord_of_meets (meets : before.Meets characters after) :
    replaceWord word replacement before.pieces =
      (if characters = word ∧ after.lexemes.head? ≠ some ['('] then replacement else characters) ++
        replaceWord word replacement after.pieces := by
  rw [meets.pieces, replaceWord, lexemes, List.head?_map, List.head?_filter]

/-- Blanks are kept. -/
theorem exists_replaceWord_blanks (letters : Run isNameChar) (replacement : List Char)
    (cursor : Cursor) :
    ∃ blanks, Blank blanks ∧ replaceWord letters.characters replacement cursor.pieces =
      blanks ++ replaceWord letters.characters replacement cursor.skipBlanks.pieces := by
  rcases cursor.pieces_skipBlanks with same | ⟨piece, split, blanks, _⟩
  · exact ⟨[], .nil, by rw [same, List.nil_append]⟩
  · refine ⟨piece.characters, blanks, ?_⟩
    rw [split, replaceWord, if_neg]
    rintro ⟨same, _⟩
    obtain ⟨letter, _, begins, named⟩ := letters.exists_cons
    have isBlank : Text.isBlank letter = true := blanks letter (by rw [same, begins]; simp)
    exact absurd isBlank (by simp [isBlank_of_isNameChar named])

/-- Replacing a name in the text of a sentence replaces it among the tokens. -/
theorem exists_replaceWord_of_spells {letters : Run isNameChar} {content : Tree .expression}
    {source : String} {tokens : List Token} (derives : content.Derives source)
    (spells : before.Spells tokens after) (separated : Separated tokens) (ends : after.Ends []) :
    ∃ text blanks, replaceWord letters.characters ('(' :: (source.toList ++ [')']))
        before.pieces = text ++ blanks ∧
      Spelled (substituteTokens letters.characters (Tree.group content).tokens tokens) text ∧
      Blank blanks := by
  -- Each token is the next piece behind the blanks, and what follows it is decided by the tokens.
  induction tokens generalizing before with
  | nil =>
      obtain rfl := spells.eq_of_nil
      obtain ⟨blanks, blank, replaced⟩ :=
        exists_replaceWord_blanks letters ('(' :: (source.toList ++ [')'])) before
      rw [replaced, pieces_of_peek (peek_of_ends ends)]
      exact ⟨[], blanks, by simp [replaceWord], .nil, blank⟩
  | cons token tokens ih =>
      obtain ⟨_, rest, middle, meets, others⟩ := spells.meets separated ends
      obtain ⟨gap, gapBlank, replaced⟩ :=
        exists_replaceWord_blanks letters ('(' :: (source.toList ++ [')'])) before
      obtain ⟨text, blanks, behind, spelled, blank⟩ := ih others rest
      rw [replaced, replaceWord_of_meets meets, behind, others.lexemes rest ends, List.head?_map,
        substituteTokens]
      split
      · exact ⟨gap ++ '(' :: (source.toList ++ [')']) ++ text, blanks, by simp,
          (derives.spelled_group.behind gapBlank).append spelled, blank⟩
      · exact ⟨gap ++ token.characters ++ text, blanks, by simp, .cons token gapBlank spelled,
          blank⟩

end Cursor

/-- An inlined line is derived by the tree with the expression in place of the name. -/
theorem Tree.Derives.derives_inlined {letters : Run isNameChar} {content tree : Tree .expression}
    {source line : String} (derives : tree.Derives line) (written : content.Derives source) :
    (substitute letters content tree).Derives
      (inlined (String.ofList letters.characters) source line) := by
  obtain ⟨after, spells, ends⟩ := Cursor.isLine_iff.mp derives
  obtain ⟨text, blanks, replaced, spelled, blank⟩ :=
    Cursor.exists_replaceWord_of_spells written spells tree.separated ends
  refine ⟨text, blanks, ?_, ?_, blank⟩
  · rw [inlined, String.toList_ofList, String.toList_ofList, replaced]
  · rwa [tokens_substitute]

namespace Session

/-- The text is an expression that gives the value in the session, without asking anything of the
console and without drawing random numbers. -/
def Gives (session : Session) (noise : Noise) (source : String) (value : Value) : Prop :=
  ∃ calls, Reading ⟨session.bindings, noise⟩ source (.expression (.value value)) calls ∧
    ∀ call ∈ calls, call.Quiet

variable {session : Session} {noise : Noise} {source line : String} {value : Value}

theorem Gives.exists_tree (gives : session.Gives noise source value) :
    ∃ tree : Tree .expression, tree.Derives source ∧
      tree.meaning ⟨session.bindings, noise⟩ = pure (.value value) := by
  obtain ⟨calls, reads, quiet⟩ := gives
  cases reads with
  | expression tree derives evaluates =>
      exact ⟨tree, derives, funext fun effects => (evaluates.of_quiet quiet effects).meaning⟩

/-- Assigning a value to a name and then reading a line comes to the same as reading the line with
an expression for the value in place of the name.  If it fails, then not because the line is
malformed. -/
theorem evaluate_inlined (noise : Noise) (session : Session) (letters : Run isNameChar)
    (gives : session.Gives noise source value)
    (sentence : ∃ tree : Tree .expression, tree.Derives line) :
    (session.evaluate noise (inlined (String.ofList letters.characters) source line)).result =
        ((session.assign (String.ofList letters.characters) value).evaluate noise line).result ∧
      (session.evaluate noise (inlined (String.ofList letters.characters) source line)).events =
        ((session.assign (String.ofList letters.characters) value).evaluate noise line).events ∧
      ∀ error, (session.evaluate noise
          (inlined (String.ofList letters.characters) source line)).result = .error error →
        ∃ fault, error = .meaningless fault := by
  obtain ⟨content, written, means⟩ := gives.exists_tree
  obtain ⟨tree, derives⟩ := sentence
  let assigned : Scope :=
    ⟨(session.assign (String.ofList letters.characters) value).bindings, noise⟩
  have here : (Rule.line ⟨session.bindings, noise⟩).outcome
      (inlined (String.ofList letters.characters) source line) =
      (Statement.expression <$> tree.meaning assigned) Effects.none := by
    rw [Rule.outcome_of_derives (derives.derives_inlined written), Tree.meaning_substitute means]
    rfl
  have there : (Rule.line assigned).outcome line =
      (Statement.expression <$> tree.meaning assigned) Effects.none :=
    Rule.outcome_of_derives derives
  rw [evaluate_eq, evaluate_eq, here, there, map_eq_pure_bind]
  cases meaning : tree.meaning assigned Effects.none with
  | error error =>
      obtain ⟨fault, rfl⟩ := tree.semantic_meaning assigned Effects.none error meaning
      rw [Meaning.bind_of_error meaning]
      exact ⟨rfl, rfl, fun error failed => ⟨fault, (Except.error.inj failed).symm⟩⟩
  | ok reached =>
      obtain ⟨operand, effects⟩ := reached
      rw [Meaning.bind_of_ok meaning]
      cases operand with
      | value content | nothing builtin => exact ⟨rfl, rfl, nofun⟩
      | function builtin =>
          exact ⟨rfl, rfl, fun error failed => ⟨_, (Except.error.inj failed).symm⟩⟩

/-- The name is also called, and stands in a text; neither is replaced. -/
theorem evaluate_inlined_max :
    inlined "max" "1 + 2" "max + \"max\" + max (\"2\")" = "(1 + 2) + \"max\" + max (\"2\")" ∧
      (fresh.evaluate (fun _ => .nan) "(1 + 2) + \"max\" + max (\"2\")").result =
        ((fresh.assign "max" (.number (Double.ofRat false 3))).evaluate (fun _ => .nan)
          "max + \"max\" + max (\"2\")").result := by
  let one : Run Char.isDigit := ⟨['1'], by decide, forall_mem_of_all (by decide)⟩
  let two : Run Char.isDigit := ⟨['2'], by decide, forall_mem_of_all (by decide)⟩
  let name : Run isNameChar := ⟨"max".toList, by decide, forall_mem_of_all (by decide)⟩
  let sum : Tree .expression :=
    .additive (.term (.factor (.number one none))) '+' .add rfl (.factor (.number two none))
  have spelled : Spelled sum.tokens ([] ++ ['1'] ++ ([' '] ++ ['+'] ++ ([' '] ++ ['2'] ++ []))) :=
    .cons (.number one none) .nil
      (.cons (.symbol '+') (by decide) (.cons (.number two none) (by decide) .nil))
  have derives : sum.Derives "1 + 2" := ⟨_, [], by decide, spelled, .nil⟩
  have total : Operator.add.apply (.number ((Decimal.ofDigits ['1'] []).toDouble false))
      (.number ((Decimal.ofDigits ['2'] []).toDouble false)) = .number (Double.ofRat false 3) := by
    decide +kernel
  have evaluates : Evaluates ⟨fresh.bindings, fun _ => .nan⟩ sum Effects.none []
      (.value (.number (Double.ofRat false 3))) Effects.none :=
    total ▸ .additive (.term (.factor (.number one none _))) (.factor (.number two none _))
  have gives : fresh.Gives (fun _ => .nan) "1 + 2" (.number (Double.ofRat false 3)) :=
    ⟨[], .expression sum derives evaluates, by simp⟩
  have taken : (Rule.line ⟨(fresh.assign "max" (.number (Double.ofRat false 3))).bindings,
      fun _ => .nan⟩).outcome "max + \"max\" + max (\"2\")" =
      .ok (.expression (.value (.text "3max2")), Effects.none) := by
    decide +kernel
  have sentence : ∃ tree : Tree .expression, tree.Derives "max + \"max\" + max (\"2\")" := by
    cases Rule.tells_of_outcome taken with
    | expression tree derives _ => exact ⟨tree, derives⟩
  have written : inlined "max" "1 + 2" "max + \"max\" + max (\"2\")" =
      "(1 + 2) + \"max\" + max (\"2\")" := by
    decide +kernel
  have same := (evaluate_inlined (fun _ => .nan) fresh name gives sentence).1
  exact ⟨written, written ▸ same⟩

end Session

end LineCalc
