import LineCalc.Proofs.Grammar.Literal
import LineCalc.Proofs.Grammar.Step
import LineCalc.Proofs.Lexeme

/-!
# Scanning

The rules for single tokens take the lexeme that comes next.  What they make of it is determined by
its characters.
-/

namespace LineCalc

namespace Text

/-- A text up to its first quote ends with the quote, or there is none. -/
theorem untilQuote_cases (text : List Char) :
    (∃ content, '"' ∉ content ∧ untilQuote text = content ++ ['"']) ∨
      '"' ∉ text ∧ untilQuote text = text := by
  have unquoted : '"' ∉ text.takeWhile (· ≠ '"') := by
    intro member
    have taken := List.all_eq_true.mp List.all_takeWhile _ member
    simp at taken
  have whole : text.takeWhile (· ≠ '"') ++ text.dropWhile (· ≠ '"') = text :=
    List.takeWhile_append_dropWhile
  unfold untilQuote
  cases rest : text.dropWhile (· ≠ '"') with
  | nil =>
      rw [rest, List.append_nil] at whole
      rw [List.take_nil, List.append_nil, whole]
      exact .inr ⟨whole ▸ unquoted, rfl⟩
  | cons quote others =>
      have refused := List.head?_dropWhile_not (· ≠ '"') text
      rw [rest] at refused
      obtain rfl : quote = '"' := by simpa using refused
      exact .inl ⟨_, unquoted, rfl⟩

end Text

namespace Rule

variable {state : State} {cursor after : Cursor} {effects : Effects}
variable {first : Char} {characters : List Char}

theorem takeWhile_of_meets {wanted : Char → Bool} (meets : cursor.Meets characters after)
    (run : Text.firstPiece cursor.ahead = cursor.ahead.takeWhile wanted) :
    takeWhile wanted ⟨cursor, effects⟩ = .ok characters ⟨after, effects⟩ := by
  simp only [takeWhile, move, meets.takeWhile run]

/-- Where something else comes next, a run is empty. -/
theorem takeWhile_of_stops {wanted : Char → Bool} (stops : cursor.Stops wanted) :
    takeWhile wanted ⟨cursor, effects⟩ = .ok [] ⟨cursor, effects⟩ := by
  have taken : cursor.takeWhile wanted = ([], cursor) :=
    Cursor.takeWhile_of_passes (.refl cursor) (by simp) stops
  simp only [takeWhile, move, taken]

/-! ## Names -/

theorem identifier_of_meets (letter : isNameChar first = true)
    (meets : state.cursor.skipBlanks.Meets (first :: characters) after) :
    identifier state = .ok (String.ofList (first :: characters)) ⟨after, state.effects⟩ := by
  have run : Text.firstPiece state.cursor.skipBlanks.ahead =
      state.cursor.skipBlanks.ahead.takeWhile isNameChar := by
    rw [meets.passes.ahead, List.cons_append, Text.firstPiece_of_letter letter]
  rw [identifier, skipBlanks_bind, position_bind, bind_of_ok (takeWhile_of_meets meets run)]
  rfl

theorem identifier_of_stops (stops : state.cursor.skipBlanks.Stops isNameChar) :
    identifier state =
      .error (.malformed (.expectedIdentifier state.cursor.skipBlanks.position))
        ⟨state.cursor.skipBlanks, state.effects⟩ := by
  rw [identifier, skipBlanks_bind, position_bind, bind_of_ok (takeWhile_of_stops stops)]
  rfl

/-! ## Texts -/

/-- A text in quotes is read if it has a closing quote. -/
theorem string_of_meets (meets : state.cursor.Meets ('"' :: characters) after) :
    string state =
      if '"' ∈ characters then
        .ok (String.ofList (characters.takeWhile (· ≠ '"'))) ⟨after, state.effects⟩
      else
        .error (.malformed (.unterminatedString state.cursor.position)) ⟨after, state.effects⟩ := by
  have split : Text.untilQuote (characters ++ after.ahead) = characters := by
    have first := meets.first
    rw [meets.passes.ahead, List.cons_append, Text.firstPiece_of_quote] at first
    exact (List.cons.inj first).2
  rcases Text.untilQuote_cases (characters ++ after.ahead) with
    ⟨content, unquoted, closed⟩ | ⟨unquoted, unclosed⟩
  · obtain rfl : characters = content ++ ['"'] := split.symm.trans closed
    have taken : (content ++ ['"']).takeWhile (· ≠ '"') = content := by
      rw [List.takeWhile_append_of_pos (forall_ne_quote unquoted)]
      simp
    rw [if_pos (by simp), taken]
    exact computes_string unquoted meets.passes state.effects
  · have ends : after.ahead = [] := List.self_eq_append_right.mp (split.symm.trans unclosed)
    rw [ends, List.append_nil] at unquoted
    obtain ⟨inside, opening, passes⟩ := meets.passes.divide_cons
    have bumped : bump state = .ok () ⟨inside, state.effects⟩ :=
      computes_bump opening state.effects
    have taken : takeWhile (· ≠ '"') ⟨inside, state.effects⟩ =
        .ok characters ⟨after, state.effects⟩ :=
      computes_takeWhile passes (forall_ne_quote unquoted) (Cursor.stops_of_nil ends) state.effects
    have missing : eat '"' ⟨after, state.effects⟩ = .ok false ⟨after, state.effects⟩ := by
      simp [eat, move, Cursor.eat_of_ne, Cursor.peek, ends]
    rw [if_neg unquoted, string, position_bind, bind_of_ok bumped, bind_of_ok taken,
      bind_of_ok missing]
    rfl

/-! ## Numbers -/

/-- The number that digits are read as, with a point and more digits or without. -/
def numberOf (characters : List Char) : Double :=
  (Decimal.ofDigits (characters.takeWhile Char.isDigit)
    (characters.dropWhile Char.isDigit).tail).toDouble false

theorem takeWhile_of_passes {wanted : Char → Bool}
    (passes : cursor.Passes (cursor.ahead.takeWhile wanted) after) :
    takeWhile wanted ⟨cursor, effects⟩ = .ok (cursor.ahead.takeWhile wanted) ⟨after, effects⟩ := by
  have same : (cursor.takeWhile wanted).2 = after :=
    (cursor.passes_takeWhile wanted).unique passes
  simp only [takeWhile, move, same]
  rfl

/-- Behind the digits of a number, a point is read with the digits that follow it. -/
theorem fraction_of_passes (passes : cursor.Passes (Text.pointed cursor.ahead) after) :
    fraction ⟨cursor, effects⟩ =
      .ok (Text.pointed cursor.ahead).tail ⟨after, effects⟩ := by
  unfold Text.pointed at passes ⊢
  split at passes
  · next point =>
    obtain ⟨middle, stepped, digits⟩ := passes.divide_cons
    have behind : middle.ahead = cursor.ahead.tail := by
      rw [stepped.ahead, List.singleton_append, List.tail_cons]
    rw [← behind] at digits
    have read : fraction ⟨cursor, effects⟩ =
        (do bump; takeWhile Char.isDigit : Rule (List Char)) ⟨cursor, effects⟩ := if_pos point
    have bumped : bump ⟨cursor, effects⟩ = .ok () ⟨middle, effects⟩ := computes_bump stepped effects
    rw [read, bind_of_ok bumped, takeWhile_of_passes digits, if_pos point, List.tail_cons, behind]
  · next other =>
    rw [if_neg other, ← passes.eq_of_nil]
    exact if_neg other

/-- A number is read back from the digits and the point that it is written with. -/
theorem numberOf_numeral (text : List Char) :
    numberOf (Text.numeral text) =
      (Decimal.ofDigits (text.takeWhile Char.isDigit)
        (Text.pointed (text.dropWhile Char.isDigit)).tail).toDouble false := by
  have all : ∀ character ∈ text.takeWhile Char.isDigit, character.isDigit = true :=
    List.all_eq_true.mp List.all_takeWhile
  have refused : ∀ others, (Text.pointed others).takeWhile Char.isDigit = [] ∧
      (Text.pointed others).dropWhile Char.isDigit = Text.pointed others := by
    intro others
    unfold Text.pointed
    split <;> simp
  rw [numberOf, Text.numeral, List.takeWhile_append_of_pos all, List.dropWhile_append_of_pos all,
    (refused _).1, (refused _).2, List.append_nil]

theorem number_of_meets (digit : first.isDigit = true)
    (meets : state.cursor.skipBlanks.Meets (first :: characters) after) :
    number state = .ok (numberOf (first :: characters)) ⟨after, state.effects⟩ := by
  have split : first :: characters = Text.numeral state.cursor.skipBlanks.ahead := by
    rw [← meets.first, meets.passes.ahead, List.cons_append, Text.firstPiece_of_digit digit]
  have passes := meets.passes
  have nonempty : state.cursor.skipBlanks.ahead.takeWhile Char.isDigit ≠ [] := by
    rw [passes.ahead, List.cons_append, List.takeWhile_cons_of_pos digit]
    simp
  rw [split] at passes ⊢
  obtain ⟨middle, whole, behind⟩ := passes.divide
  have reached : (state.cursor.skipBlanks.takeWhile Char.isDigit).2 = middle :=
    (state.cursor.skipBlanks.passes_takeWhile Char.isDigit).unique whole
  have rest : state.cursor.skipBlanks.ahead.dropWhile Char.isDigit = middle.ahead :=
    congrArg Cursor.ahead reached
  rw [numberOf_numeral, number, skipBlanks_bind, position_bind,
    bind_of_ok (takeWhile_of_passes whole), if_neg nonempty]
  rw [rest] at behind ⊢
  rw [bind_of_ok (fraction_of_passes behind)]
  rfl

theorem number_of_stops (stops : state.cursor.skipBlanks.Stops Char.isDigit) :
    number state =
      .error (.malformed (.expectedNumber state.cursor.skipBlanks.position))
        ⟨state.cursor.skipBlanks, state.effects⟩ := by
  rw [number, skipBlanks_bind, position_bind, bind_of_ok (takeWhile_of_stops stops)]
  rfl

end Rule

end LineCalc
