import LineCalc.Proofs.Passage

/-!
# Tokens

The words that lines are made of.  Blanks may stand in front of every token and at the end of a
line, and nowhere else outside of texts.
-/

namespace LineCalc

/-- A nonempty run of characters of one kind. -/
structure Run (wanted : Char → Bool) where
  characters : List Char
  nonempty : characters ≠ []
  all : ∀ character ∈ characters, wanted character = true

/-- A word of the language. -/
inductive Token where
  /-- Digits, with the digits behind the point if there is one. -/
  | number (whole : Run Char.isDigit) (places : Option (Run Char.isDigit))
  /-- The text between two quotes. -/
  | text (content : List Char) (unquoted : '"' ∉ content)
  | name (letters : Run isNameChar)
  /-- An operator, a parenthesis, a comma or an equals sign. -/
  | symbol (character : Char)

/-- The characters of symbols. -/
def marks : List Char :=
  ['+', '-', '*', '/', '%', '(', ')', ',', '=']

/-- How a token is written. -/
def Token.characters : Token → List Char
  | number whole none => whole.characters
  | number whole (some places) => whole.characters ++ '.' :: places.characters
  | text content _ => '"' :: (content ++ ['"'])
  | name letters => letters.characters
  | symbol character => [character]

/-- The text consists of the tokens, with blanks before each of them. -/
inductive Spelled : List Token → List Char → Prop
  | nil : Spelled [] []
  | cons {blanks text : List Char} {tokens : List Token} (token : Token) :
      Blank blanks → Spelled tokens text →
      Spelled (token :: tokens) (blanks ++ token.characters ++ text)

namespace Spelled

theorem append {left right : List Token} {leftText rightText : List Char}
    (leftSpelled : Spelled left leftText) (rightSpelled : Spelled right rightText) :
    Spelled (left ++ right) (leftText ++ rightText) := by
  induction leftSpelled with
  | nil => exact rightSpelled
  | cons token blank _ ih =>
      rw [List.cons_append, List.append_assoc]
      exact .cons token blank ih

theorem divide {left right : List Token} {text : List Char}
    (spelled : Spelled (left ++ right) text) :
    ∃ leftText rightText, text = leftText ++ rightText ∧
      Spelled left leftText ∧ Spelled right rightText := by
  induction left generalizing text with
  | nil => exact ⟨[], text, rfl, .nil, spelled⟩
  | cons token left ih =>
      cases spelled with
      | cons _ blank others =>
          obtain ⟨leftText, rightText, rfl, leftSpelled, rightSpelled⟩ := ih others
          exact ⟨_, rightText, (List.append_assoc _ _ _).symm, .cons token blank leftSpelled,
            rightSpelled⟩

end Spelled

theorem forall_ne_quote {content : List Char} (unquoted : '"' ∉ content) :
    ∀ character ∈ content, decide (character ≠ '"') = true := by
  intro character member
  exact decide_eq_true fun quote => unquoted (quote ▸ member)

/-! ## The first character of a token -/

theorem isDigit_iff {character : Char} :
    character.isDigit = true ↔ 48 ≤ character.toNat ∧ character.toNat ≤ 57 := by
  have digit : character.isDigit = (decide (character.val ≥ 48) && decide (character.val ≤ 57)) :=
    rfl
  simp [digit, UInt32.le_iff_toNat_le]

theorem isNameChar_iff {character : Char} :
    isNameChar character = true ↔
      65 ≤ character.toNat ∧ character.toNat ≤ 90 ∨
        97 ≤ character.toNat ∧ character.toNat ≤ 122 ∨ character = '_' := by
  have letter : character.isAlpha = (decide (character.val ≥ 65 ∧ character.val ≤ 90) ||
      decide (character.val ≥ 97) && decide (character.val ≤ 122)) := rfl
  simp [isNameChar, letter, UInt32.le_iff_toNat_le, or_assoc]

theorem isBlank_of_isDigit {character : Char} (digit : character.isDigit = true) :
    Text.isBlank character = false := by
  have bounds := isDigit_iff.mp digit
  simp [Text.isBlank, Text.blankRanges]
  omega

theorem isBlank_of_isNameChar {character : Char} (letter : isNameChar character = true) :
    Text.isBlank character = false := by
  rcases isNameChar_iff.mp letter with bounds | bounds | rfl
  · simp [Text.isBlank, Text.blankRanges]
    omega
  · simp [Text.isBlank, Text.blankRanges]
    omega
  · decide

theorem isNameChar_of_isDigit {character : Char} (digit : character.isDigit = true) :
    isNameChar character = false := by
  rw [Bool.eq_false_iff]
  intro letter
  have bounds := isDigit_iff.mp digit
  rcases isNameChar_iff.mp letter with letters | letters | rfl
  · omega
  · omega
  · exact absurd digit (by decide)

theorem isBlank_of_mark {mark : Char} (known : mark ∈ marks) : Text.isBlank mark = false := by
  have visible : ∀ character ∈ marks, Text.isBlank character = false :=
    forall_mem_of_all (by decide)
  exact visible mark known

/-- A run begins with a character of its kind. -/
theorem Run.exists_cons {wanted : Char → Bool} (run : Run wanted) :
    ∃ first others, run.characters = first :: others ∧ wanted first = true := by
  obtain ⟨first, others, split⟩ := List.exists_cons_of_ne_nil run.nonempty
  exact ⟨first, others, split, run.all first (by simp [split])⟩

namespace Token

/-- The token begins with a character that is not blank. -/
def Visible (token : Token) : Prop :=
  ∃ first others, token.characters = first :: others ∧ Text.isBlank first = false

theorem visible_number (whole : Run Char.isDigit) (places : Option (Run Char.isDigit)) :
    (number whole places).Visible := by
  obtain ⟨first, others, split, digit⟩ := whole.exists_cons
  cases places with
  | none => exact ⟨first, others, split, isBlank_of_isDigit digit⟩
  | some places =>
      refine ⟨first, others ++ '.' :: places.characters, ?_, isBlank_of_isDigit digit⟩
      rw [characters, split, List.cons_append]

theorem visible_text (content : List Char) (unquoted : '"' ∉ content) :
    (text content unquoted).Visible :=
  ⟨'"', content ++ ['"'], rfl, by decide⟩

theorem visible_name (letters : Run isNameChar) : (name letters).Visible := by
  obtain ⟨first, others, split, letter⟩ := letters.exists_cons
  exact ⟨first, others, split, isBlank_of_isNameChar letter⟩

theorem visible_symbol {character : Char} (visible : Text.isBlank character = false) :
    (symbol character).Visible :=
  ⟨character, [], rfl, visible⟩

end Token

/-! ## Tokens ahead of a cursor -/

namespace Cursor

/-- Tokens stand between two cursors. -/
def Spells (before : Cursor) (tokens : List Token) (after : Cursor) : Prop :=
  ∃ text, Spelled tokens text ∧ before.Passes text after

variable {before middle after : Cursor} {left right tokens : List Token}

namespace Spells

theorem refl (cursor : Cursor) : cursor.Spells [] cursor :=
  ⟨[], .nil, .refl cursor⟩

theorem trans (first : before.Spells left middle) (second : middle.Spells right after) :
    before.Spells (left ++ right) after := by
  obtain ⟨leftText, leftSpelled, leftPasses⟩ := first
  obtain ⟨rightText, rightSpelled, rightPasses⟩ := second
  exact ⟨leftText ++ rightText, leftSpelled.append rightSpelled, leftPasses.trans rightPasses⟩

theorem divide (spells : before.Spells (left ++ right) after) :
    ∃ middle, before.Spells left middle ∧ middle.Spells right after := by
  obtain ⟨text, spelled, passes⟩ := spells
  obtain ⟨leftText, rightText, rfl, leftSpelled, rightSpelled⟩ := spelled.divide
  obtain ⟨middle, leftPasses, rightPasses⟩ := passes.divide
  exact ⟨middle, ⟨leftText, leftSpelled, leftPasses⟩, ⟨rightText, rightSpelled, rightPasses⟩⟩

theorem eq_of_nil (spells : before.Spells [] after) : before = after := by
  obtain ⟨text, spelled, passes⟩ := spells
  cases spelled
  exact passes.eq_of_nil

/-- A token with nothing before it. -/
theorem exact {token : Token} (passes : before.Passes token.characters after) :
    before.Spells [token] after := by
  refine ⟨[] ++ token.characters ++ [], .cons token .nil .nil, ?_⟩
  rwa [List.nil_append, List.append_nil]

/-- Blanks may be put before the first token. -/
theorem behind {token : Token} (slides : before.Slides middle)
    (spells : middle.Spells (token :: tokens) after) : before.Spells (token :: tokens) after := by
  obtain ⟨blanks, blank, slid⟩ := slides
  obtain ⟨text, spelled, passes⟩ := spells
  cases spelled with
  | cons _ moreBlank spelled =>
      refine ⟨_, .cons token (blank.append moreBlank) spelled, ?_⟩
      simpa only [List.append_assoc] using slid.trans passes

theorem symbol {character : Char} (slides : before.Slides middle)
    (passes : middle.Passes [character] after) : before.Spells [.symbol character] after :=
  behind slides (exact (show middle.Passes (Token.symbol character).characters after from passes))

/-- The first token stands where stepping over blanks ends. -/
theorem divide_cons {token : Token} (spells : before.Spells (token :: tokens) after)
    (visible : token.Visible) :
    ∃ middle, before.skipBlanks.Passes token.characters middle ∧ middle.Spells tokens after := by
  obtain ⟨text, spelled, passes⟩ := spells
  cases spelled with
  | cons _ blank spelled =>
      obtain ⟨middle, passes, onward⟩ := passes.divide
      obtain ⟨start, skipped, shown⟩ := passes.divide
      refine ⟨middle, ?_, _, spelled, onward⟩
      rw [skipBlanks_of_passes skipped blank]
      · exact shown
      · obtain ⟨first, others, split, notBlank⟩ := visible
        rw [split] at shown
        exact stops_of_peek (peek_of_passes shown) notBlank

theorem peek_skipBlanks {token : Token} (spells : before.Spells (token :: tokens) after)
    (visible : token.Visible) : before.skipBlanks.peek = token.characters.head? := by
  obtain ⟨middle, passes, _⟩ := spells.divide_cons visible
  obtain ⟨first, others, split, _⟩ := visible
  rw [split] at passes ⊢
  exact peek_of_passes passes

/-- Blanks before the first token do not matter. -/
theorem skipBlanks {token : Token} (spells : before.Spells (token :: tokens) after)
    (visible : token.Visible) : before.skipBlanks.Spells (token :: tokens) after := by
  obtain ⟨middle, passes, others⟩ := spells.divide_cons visible
  exact (exact passes).trans others

theorem length_le (spells : before.Spells tokens after) :
    after.ahead.length ≤ before.ahead.length := by
  obtain ⟨text, _, passes⟩ := spells
  rw [passes.length]
  exact Nat.le_add_left _ _

end Spells

end Cursor

end LineCalc
