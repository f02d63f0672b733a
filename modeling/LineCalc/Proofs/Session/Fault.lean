import LineCalc.Proofs.Decimal.Reading
import LineCalc.Proofs.Grammar.Fault
import LineCalc.Proofs.Session.Atomic

/-!
# Faults of lines

If the evaluation of a line says that it is malformed, what it says is true.  In particular a number
is missed only where there is none: a number that has been read is never refused.
-/

namespace LineCalc

/-! ## Conversion of numbers -/

namespace Rule

/-- The text of a number: its digits, with a point and the places if there are any. -/
def numberText (whole places : List Char) : List Char :=
  if places = [] then whole else whole ++ '.' :: places

/-- Reads a number by a conversion that may refuse its text.  If it does, a number is missed where
the text begins. -/
def numberBy (convert : List Char → Option Double) : Rule Double := do
  skipBlanks
  let start ← position
  let whole ← takeWhile Char.isDigit
  if whole = [] then
    malformed (.expectedNumber start)
  else
    let places ← fraction
    match convert (numberText whole places) with
    | some number => return number
    | none => malformed (.expectedNumber start)

variable {convert : List Char → Option Double} {before after : State}

/-- Behind digits, the text that is converted is that of a number. -/
theorem exists_numberText_eq (whole : Run Char.isDigit) (state : State) :
    ∃ places after, fraction state = .ok (Option.elim places [] Run.characters) after ∧
      numberText whole.characters (places.elim [] Run.characters) =
        (Token.number whole places).characters := by
  obtain ⟨read, after, ran⟩ := exists_fraction_eq_ok state
  rcases fraction_eq_ok ran with ⟨rfl, _⟩ | ⟨places, rfl, _⟩
  · exact ⟨none, after, ran, rfl⟩
  · exact ⟨some places, after, ran, if_neg places.nonempty⟩

/-- A conversion that takes every number for what its digits write makes no difference. -/
theorem numberBy_eq_number
    (converts : ∀ whole places, convert (Token.number whole places).characters =
      some ((Decimal.ofDigits whole.characters (places.elim [] Run.characters)).toDouble false)) :
    numberBy convert = number := by
  funext state
  let digits := (state.cursor.skipBlanks.takeWhile Char.isDigit).1
  have all : ∀ character ∈ digits, character.isDigit = true :=
    fun _ => Cursor.wanted_of_mem_takeWhile
  have taken : takeWhile Char.isDigit ⟨state.cursor.skipBlanks, state.effects⟩ =
      .ok digits ⟨(state.cursor.skipBlanks.takeWhile Char.isDigit).2, state.effects⟩ := rfl
  rw [numberBy, number, skipBlanks_bind, skipBlanks_bind, position_bind, position_bind,
    bind_of_ok taken, bind_of_ok taken]
  by_cases empty : digits = []
  · rw [if_pos empty, if_pos empty]
  · rw [if_neg empty, if_neg empty]
    obtain ⟨places, after, read, written⟩ := exists_numberText_eq ⟨digits, empty, all⟩ _
    rw [bind_of_ok read, bind_of_ok read, written, converts]

/-- A conversion that refuses no number is not what a missing number is due to. -/
theorem stops_of_numberBy_eq_error {error : EvalError}
    (accepts : ∀ whole places, (convert (Token.number whole places).characters).isSome = true)
    (failed : numberBy convert before = .error error after) :
    before.cursor.skipBlanks.Stops Char.isDigit := by
  rw [numberBy, skipBlanks_bind, position_bind] at failed
  obtain ⟨digits, behind, passes, all, stops, stepped⟩ := takeWhile_bind _ _ _
  rw [stepped] at failed
  by_cases empty : digits = []
  · subst empty
    rwa [← passes.eq_of_nil] at stops
  · rw [if_neg empty] at failed
    obtain ⟨places, middle, read, written⟩ := exists_numberText_eq ⟨digits, empty, all⟩ _
    obtain ⟨number, converted⟩ := Option.isSome_iff_exists.mp (accepts ⟨digits, empty, all⟩ places)
    rw [bind_of_ok read, written, converted] at failed
    exact absurd failed not_pure_eq_error

end Rule

namespace Session

variable {noise : Noise} {session : Session} {line : String}

theorem semantic_outcome (operand : Operand) : Semantic (outcome operand) := by
  cases operand with
  | nothing builtin => exact semantic_ok none
  | value content => exact semantic_ok _
  | function builtin => exact semantic_meaningless _

/-- A line is malformed if its reading finds it so. -/
theorem outcome_of_malformed {fault : SyntaxError}
    (failed : (session.evaluate noise line).result = .error (.malformed fault)) :
    (Rule.line ⟨session.bindings, noise⟩).outcome line = .error (.malformed fault) := by
  rw [evaluate_eq] at failed
  split at failed
  · next statement effects read =>
    cases statement with
    | assignment name value => exact absurd failed nofun
    | expression operand =>
        unfold accepted at failed
        cases shown : outcome operand with
        | ok result => simp [shown] at failed
        | error error =>
            obtain ⟨meaning, rfl⟩ := semantic_outcome operand error shown
            simp [shown] at failed
  · next error refused => rw [refused, Except.error.inj failed]

/-- The fault of a malformed line is blamed on a place in the line or at its end, and what stands
there is what the fault says; a missing name is never blamed.  A number is missed only where no
digit is next, whatever conversion of its text is used, if none of the texts that digits and points
make is refused; the conversion in use takes the decimal that they write. -/
theorem evaluate_malformed :
    (∀ (noise : Noise) (session : Session) (line : String) (fault : SyntaxError),
      (session.evaluate noise line).result = .error (.malformed fault) →
        fault.position ≤ line.toList.length ∧ fault.InLine line.toList) ∧
    (Rule.numberBy fun text => Decimal.toDouble false <$> Decimal.ofText? text) = Rule.number ∧
    ∀ convert : List Char → Option Double,
      (∀ whole places, (convert (Token.number whole places).characters).isSome = true) →
      ∀ before error after, Rule.numberBy convert before = .error error after →
        before.cursor.skipBlanks.Stops Char.isDigit := by
  refine ⟨?_, ?_, ?_⟩
  · intro noise session line fault failed
    have inLine := Rule.inLine_of_outcome (outcome_of_malformed failed)
    exact ⟨inLine.position_le, inLine⟩
  · refine Rule.numberBy_eq_number fun whole places => ?_
    rw [Decimal.ofText?_number]
    rfl
  · exact fun convert accepts before error after => Rule.stops_of_numberBy_eq_error accepts

/-- The parenthesis is missed at a letter that no name has, nine characters into the line. -/
theorem evaluate_malformed_unclosed :
    let line := "\"ä\" + (2 ü"
    let convert := fun text => Decimal.toDouble false <$> Decimal.ofText? text
    let before := State.start " .5"
    (fresh.evaluate (fun _ => .nan) line).result = .error (.malformed (.expectedClosingParen 9)) ∧
      (9 ≤ line.toList.length ∧
        SyntaxError.InLine line.toList (.expectedClosingParen 9)) ∧
      Rule.numberBy convert before =
        .error (.malformed (.expectedNumber 1)) ⟨before.cursor.skipBlanks, Effects.none⟩ ∧
      before.cursor.skipBlanks.Stops Char.isDigit := by
  intro line convert before
  have failed : (fresh.evaluate (fun _ => .nan) line).result =
      .error (.malformed (.expectedClosingParen 9)) := by decide +kernel
  have missed : Rule.numberBy convert before =
      .error (.malformed (.expectedNumber 1)) ⟨before.cursor.skipBlanks, Effects.none⟩ := rfl
  have accepts (whole : Run Char.isDigit) (places : Option (Run Char.isDigit)) :
      (convert (Token.number whole places).characters).isSome = true := by
    simp [convert, Decimal.ofText?_number]
  exact ⟨failed, evaluate_malformed.1 _ _ _ _ failed, missed,
    evaluate_malformed.2.2 convert accepts _ _ _ missed⟩

end Session

end LineCalc
