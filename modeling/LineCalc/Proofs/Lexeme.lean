import LineCalc.Proofs.Grammar.Token

/-!
# Lexemes

Every text can be cut into pieces, each of which extends as far as it can: runs of blanks, and
lexemes, which are texts in quotes, names, numbers and single characters.  A text without a closing
quote extends to the end.
-/

namespace LineCalc

namespace Text

/-- A text up to its first quote, with the quote if there is one. -/
def untilQuote (text : List Char) : List Char :=
  text.takeWhile (· ≠ '"') ++ (text.dropWhile (· ≠ '"')).take 1

/-- The point that a text begins with and the digits behind it, if there are any. -/
def pointed (text : List Char) : List Char :=
  if text.head? = some '.' ∧ text[1]?.any Char.isDigit then
    '.' :: text.tail.takeWhile Char.isDigit
  else
    []

/-- The digits that a text begins with, and a point with the digits behind it if there are any. -/
def numeral (text : List Char) : List Char :=
  text.takeWhile Char.isDigit ++ pointed (text.dropWhile Char.isDigit)

/-- The longest piece that a text begins with. -/
def firstPiece : List Char → List Char
  | [] => []
  | first :: others =>
      if first = '"' then first :: untilQuote others
      else if isBlank first then first :: others.takeWhile isBlank
      else if isNameChar first then first :: others.takeWhile isNameChar
      else if first.isDigit then numeral (first :: others)
      else [first]

end Text

/-- A run of blanks or a lexeme, with the place where it begins. -/
structure Piece where
  position : Nat
  characters : List Char
  deriving DecidableEq

/-- Is the piece a lexeme? -/
def Piece.visible (piece : Piece) : Bool :=
  piece.characters.head?.any fun first => !Text.isBlank first

namespace Cursor

/-- The pieces of a text at a position, the first few characters of which belong to a piece before.
-/
def piecesFrom : List Char → Nat → Nat → List Piece
  | [], _, _ => []
  | _ :: others, taken + 1, position => piecesFrom others taken (position + 1)
  | first :: others, 0, position =>
      let characters := Text.firstPiece (first :: others)
      ⟨position, characters⟩ :: piecesFrom others (characters.length - 1) (position + 1)

/-- The pieces ahead of a cursor. -/
def pieces (cursor : Cursor) : List Piece :=
  piecesFrom cursor.ahead 0 cursor.position

/-- The lexemes ahead of a cursor. -/
def lexemes (cursor : Cursor) : List (List Char) :=
  (cursor.pieces.filter Piece.visible).map Piece.characters

/-- Where the lexemes ahead of a cursor begin, and where the text ends. -/
def places (cursor : Cursor) : List Nat :=
  (cursor.pieces.filter Piece.visible).map Piece.position ++
    [cursor.position + cursor.ahead.length]

end Cursor

/-- The lexemes of a line. -/
def lexemes (line : String) : List (List Char) :=
  (Cursor.ofString line).lexemes

/-- Where the lexemes of a line begin, and where it ends. -/
def places (line : String) : List Nat :=
  (Cursor.ofString line).places

namespace Text

variable {first : Char} {text others : List Char}

theorem untilQuote_prefix (text : List Char) : untilQuote text <+: text := by
  refine ⟨(text.dropWhile (· ≠ '"')).drop 1, ?_⟩
  rw [untilQuote, List.append_assoc, List.take_append_drop, List.takeWhile_append_dropWhile]

theorem pointed_prefix (text : List Char) : pointed text <+: text := by
  unfold pointed
  split
  · next point =>
    obtain ⟨others, rfl⟩ := List.head?_eq_some_iff.mp point.1
    exact (List.prefix_cons_inj '.').mpr (List.takeWhile_prefix _)
  · exact List.nil_prefix

theorem numeral_prefix (text : List Char) : numeral text <+: text := by
  have whole : text.takeWhile Char.isDigit ++ text.dropWhile Char.isDigit = text :=
    List.takeWhile_append_dropWhile
  have behind := pointed_prefix (text.dropWhile Char.isDigit)
  have within := (List.prefix_append_right_inj (text.takeWhile Char.isDigit)).mpr behind
  rwa [whole] at within

/-- The first piece begins with the first character. -/
theorem exists_firstPiece (first : Char) (others : List Char) :
    ∃ characters, firstPiece (first :: others) = first :: characters ∧ characters <+: others := by
  rw [firstPiece]
  split
  · exact ⟨_, rfl, untilQuote_prefix others⟩
  · split
    · exact ⟨_, rfl, List.takeWhile_prefix _⟩
    · split
      · exact ⟨_, rfl, List.takeWhile_prefix _⟩
      · split
        · next digit =>
          have nonempty : numeral (first :: others) ≠ [] := by
            simp [numeral, digit]
          have whole := numeral_prefix (first :: others)
          obtain ⟨head, characters, split⟩ := List.exists_cons_of_ne_nil nonempty
          rw [split, List.cons_prefix_cons] at whole
          obtain ⟨rfl, whole⟩ := whole
          exact ⟨characters, split, whole⟩
        · exact ⟨[], rfl, List.nil_prefix⟩

/-! ## Kinds of pieces -/

theorem firstPiece_of_blank (blank : isBlank first = true) :
    firstPiece (first :: others) = (first :: others).takeWhile isBlank := by
  have other : first ≠ '"' := by
    rintro rfl
    exact absurd blank (by decide)
  rw [firstPiece, if_neg other, if_pos blank, List.takeWhile_cons_of_pos blank]

theorem firstPiece_of_letter (letter : isNameChar first = true) :
    firstPiece (first :: others) = (first :: others).takeWhile isNameChar := by
  have other : first ≠ '"' := by
    rintro rfl
    exact absurd letter (by decide)
  rw [firstPiece, if_neg other, if_neg (by simp [isBlank_of_isNameChar letter]), if_pos letter,
    List.takeWhile_cons_of_pos letter]

theorem firstPiece_of_digit (digit : first.isDigit = true) :
    firstPiece (first :: others) = numeral (first :: others) := by
  have other : first ≠ '"' := by
    rintro rfl
    exact absurd digit (by decide)
  rw [firstPiece, if_neg other, if_neg (by simp [isBlank_of_isDigit digit]),
    if_neg (by simp [isNameChar_of_isDigit digit]), if_pos digit]

theorem firstPiece_of_quote (others : List Char) :
    firstPiece ('"' :: others) = '"' :: untilQuote others := by
  rw [firstPiece, if_pos rfl]

theorem firstPiece_of_mark (known : first ∈ marks) : firstPiece (first :: others) = [first] := by
  have other : ∀ mark ∈ marks, mark ≠ '"' ∧ isNameChar mark = false ∧ mark.isDigit = false :=
    forall_mem_of_all (by decide)
  obtain ⟨noQuote, noLetter, noDigit⟩ := other first known
  rw [firstPiece, if_neg noQuote, if_neg (by simp [isBlank_of_mark known]),
    if_neg (by simp [noLetter]), if_neg (by simp [noDigit])]

end Text

namespace Cursor

/-- The piece with the characters is the first one ahead of a cursor, and the other cursor stands
behind it. -/
structure Meets (cursor : Cursor) (characters : List Char) (after : Cursor) : Prop where
  first : Text.firstPiece cursor.ahead = characters
  passes : cursor.Passes characters after
  nonempty : characters ≠ []

theorem piecesFrom_drop (text : List Char) (taken position : Nat) :
    piecesFrom text taken position = piecesFrom (text.drop taken) 0 (position + taken) := by
  induction text generalizing taken position with
  | nil => simp [piecesFrom]
  | cons first others ih =>
      cases taken with
      | zero => rfl
      | succ taken =>
          rw [piecesFrom, ih, List.drop_succ_cons]
          congr 1
          omega

variable {cursor after : Cursor} {characters : List Char}

theorem Meets.pieces (meets : cursor.Meets characters after) :
    cursor.pieces = ⟨cursor.position, characters⟩ :: after.pieces := by
  obtain ⟨first, ⟨ahead, position⟩, nonempty⟩ := meets
  obtain ⟨head, rest, rfl⟩ := List.exists_cons_of_ne_nil nonempty
  have start : cursor.ahead = head :: (rest ++ after.ahead) := ahead
  rw [Cursor.pieces, Cursor.pieces, start, piecesFrom, ← start, first, piecesFrom_drop, position]
  simp [Nat.add_comm, Nat.add_left_comm]

theorem exists_meets {first : Char} (found : cursor.peek = some first) :
    ∃ characters after, cursor.Meets (first :: characters) after := by
  obtain ⟨position, _ | ⟨head, others⟩⟩ := cursor
  · simp [peek] at found
  · obtain rfl : head = first := by simpa [peek] using found
    obtain ⟨characters, split, rest, rfl⟩ := Text.exists_firstPiece head others
    exact ⟨characters, ⟨position + (head :: characters).length, rest⟩, split, ⟨rfl, rfl⟩, by simp⟩

/-! ## Lexemes -/

theorem Meets.lexemes {first : Char} (meets : cursor.Meets (first :: characters) after)
    (visible : Text.isBlank first = false) :
    cursor.lexemes = (first :: characters) :: after.lexemes := by
  simp [Cursor.lexemes, meets.pieces, Piece.visible, visible]

theorem Meets.places {first : Char} (meets : cursor.Meets (first :: characters) after)
    (visible : Text.isBlank first = false) :
    cursor.places = cursor.position :: after.places := by
  have ends : cursor.position + cursor.ahead.length = after.position + after.ahead.length := by
    rw [meets.passes.length, meets.passes.position, Nat.add_assoc]
  simp [Cursor.places, meets.pieces, Piece.visible, visible, ends]

theorem pieces_of_peek (nothing : cursor.peek = none) : cursor.pieces = [] := by
  have empty : cursor.ahead = [] := List.head?_eq_none_iff.mp nothing
  rw [Cursor.pieces, empty, piecesFrom]

theorem lexemes_of_peek (nothing : cursor.peek = none) : cursor.lexemes = [] := by
  simp [Cursor.lexemes, pieces_of_peek nothing]

theorem places_of_peek (nothing : cursor.peek = none) : cursor.places = [cursor.position] := by
  have empty : cursor.ahead = [] := List.head?_eq_none_iff.mp nothing
  simp [Cursor.places, pieces_of_peek nothing, empty]

/-- A run that is the first piece is taken as a whole. -/
theorem Meets.takeWhile {wanted : Char → Bool} (meets : cursor.Meets characters after)
    (run : Text.firstPiece cursor.ahead = cursor.ahead.takeWhile wanted) :
    cursor.takeWhile wanted = (characters, after) := by
  have taken : (cursor.takeWhile wanted).1 = characters := run.symm.trans meets.first
  have passes := cursor.passes_takeWhile wanted
  rw [taken] at passes
  exact Prod.ext taken (passes.unique meets.passes)

/-- Blanks, if there are any, are one piece, which is no lexeme. -/
theorem pieces_skipBlanks (cursor : Cursor) : cursor.skipBlanks = cursor ∨
    ∃ blanks, cursor.pieces = blanks :: cursor.skipBlanks.pieces ∧ Blank blanks.characters ∧
      blanks.visible = false := by
  by_cases stops : cursor.Stops Text.isBlank
  · exact .inl (skipBlanks_of_stops stops)
  refine .inr ?_
  obtain ⟨first, found, blank⟩ : ∃ first, cursor.peek = some first ∧ Text.isBlank first := by
    simpa [Stops] using stops
  obtain ⟨characters, after, meets⟩ := exists_meets found
  have run : Text.firstPiece cursor.ahead = cursor.ahead.takeWhile Text.isBlank := by
    obtain ⟨others, ahead⟩ := List.head?_eq_some_iff.mp found
    rw [ahead, Text.firstPiece_of_blank blank]
  have taken := meets.takeWhile run
  have skipped : cursor.skipBlanks = after := congrArg Prod.snd taken
  have whole : (cursor.takeWhile Text.isBlank).1 = first :: characters := congrArg Prod.fst taken
  refine ⟨_, skipped ▸ meets.pieces, ?_, by simp [Piece.visible, blank]⟩
  intro character member
  rw [← whole] at member
  exact wanted_of_mem_takeWhile member

theorem filter_pieces_skipBlanks (cursor : Cursor) :
    cursor.skipBlanks.pieces.filter Piece.visible = cursor.pieces.filter Piece.visible := by
  rcases cursor.pieces_skipBlanks with same | ⟨blanks, split, _, hidden⟩
  · rw [same]
  · rw [split, List.filter_cons_of_neg (by simp [hidden])]

theorem lexemes_skipBlanks (cursor : Cursor) : cursor.skipBlanks.lexemes = cursor.lexemes := by
  rw [Cursor.lexemes, filter_pieces_skipBlanks, Cursor.lexemes]

theorem places_skipBlanks (cursor : Cursor) : cursor.skipBlanks.places = cursor.places := by
  obtain ⟨blanks, _, passes⟩ := cursor.exists_passes_skipBlanks
  rw [Cursor.places, Cursor.places, filter_pieces_skipBlanks, passes.length, passes.position,
    Nat.add_assoc]

/-! ## The first lexeme -/

/-- Behind blanks stands the first character of the first lexeme. -/
theorem peek_skipBlanks (cursor : Cursor) :
    cursor.skipBlanks.peek = cursor.lexemes.head?.bind List.head? := by
  cases found : cursor.skipBlanks.peek with
  | none => rw [← lexemes_skipBlanks, lexemes_of_peek found, List.head?_nil, Option.bind_none]
  | some first =>
      obtain ⟨characters, after, meets⟩ := exists_meets found
      rw [← lexemes_skipBlanks, meets.lexemes (cursor.stops_skipBlanks first found)]
      rfl

variable {mark : Char}

/-- A mark is a lexeme of its own. -/
theorem Meets.eq_nil_of_mark (meets : cursor.Meets (mark :: characters) after)
    (known : mark ∈ marks) : characters = [] := by
  have piece := meets.first
  rw [meets.passes.ahead, List.cons_append, Text.firstPiece_of_mark known] at piece
  exact (List.cons.inj piece).2.symm

theorem Meets.bump (meets : cursor.Meets (mark :: characters) after) (known : mark ∈ marks) :
    cursor.bump.2 = after := by
  obtain rfl := meets.eq_nil_of_mark known
  exact congrArg Prod.snd (bump_of_passes meets.passes)

theorem head?_lexemes_of_mark (found : cursor.skipBlanks.peek = some mark)
    (known : mark ∈ marks) : cursor.lexemes.head? = some [mark] := by
  obtain ⟨characters, after, meets⟩ := exists_meets found
  obtain rfl := meets.eq_nil_of_mark known
  rw [← lexemes_skipBlanks, meets.lexemes (isBlank_of_mark known), List.head?_cons]

/-- Behind blanks, a cursor meets the first of its lexemes. -/
theorem exists_meets_of_lexemes {cursor : Cursor} {lexeme : List Char} {others : List (List Char)}
    (ahead : cursor.lexemes = lexeme :: others) :
    ∃ after, cursor.skipBlanks.Meets lexeme after ∧ after.lexemes = others := by
  cases found : cursor.skipBlanks.peek with
  | none =>
      rw [← lexemes_skipBlanks, lexemes_of_peek found] at ahead
      exact absurd ahead (by simp)
  | some first =>
      obtain ⟨characters, after, meets⟩ := exists_meets found
      rw [← lexemes_skipBlanks, meets.lexemes (cursor.stops_skipBlanks first found)] at ahead
      obtain ⟨rfl, rfl⟩ := List.cons.inj ahead
      exact ⟨after, meets, rfl⟩

end Cursor

end LineCalc
