import LineCalc.Console
import LineCalc.Proofs.Grammar.Attempt
import LineCalc.Proofs.Grammar.Procedure
import LineCalc.Proofs.Grammar.Scanning
import LineCalc.Proofs.Session.Atomic
import LineCalc.Proofs.Words

/-!
# Commands

A console tells by their words which lines are commands, and passes over the lines without a word.
It evaluates the others.  No factor begins with a colon, so a line that was meant as a command and
is none fails at its first word.
-/

namespace LineCalc

namespace Rule

variable {scope : Scope} {line : String} {state : State}
variable {blanks others : List Char} {found : Char}

/-- May a factor begin with the character? -/
def opensFactor (character : Char) : Bool :=
  character ∈ Procedure.factorMarks || isNameChar character || character.isDigit

theorem opensFactor_eq_false_iff : opensFactor found = false ↔
    found ∉ Procedure.factorMarks ∧ isNameChar found = false ∧ found.isDigit = false := by
  simp [opensFactor, and_assoc]

theorem factorWithin_of_stray (bound : Nat) (ahead : state.cursor.peek = some found)
    (visible : Text.isBlank found = false) (stray : opensFactor found = false) :
    factorWithin scope (bound + 1) state =
      .error (.malformed (.expectedNumber state.cursor.position)) state := by
  obtain ⟨noMark, noLetter, noDigit⟩ := opensFactor_eq_false_iff.mp stray
  have stands : state.cursor.skipBlanks = state.cursor :=
    Cursor.skipBlanks_of_stops (Cursor.stops_of_peek ahead visible)
  have unmarked : ∀ mark ∈ Procedure.factorMarks, state.cursor.skipBlanks.peek ≠ some mark := by
    intro mark member same
    rw [stands, ahead] at same
    exact noMark (Option.some.inj same ▸ member)
  have unnamed : ¬ state.cursor.skipBlanks.peek.any isNameChar = true := by
    simp [stands, ahead, noLetter]
  have failed : number state =
      .error (.malformed (.expectedNumber state.cursor.position)) state := by
    have stops : state.cursor.skipBlanks.Stops Char.isDigit :=
      stands.symm ▸ Cursor.stops_of_peek ahead noDigit
    rw [number_of_stops stops, stands]
  rw [(Procedure.factorWithin_of_unmarked unmarked).2 unnamed, stands, bind_of_error failed]

theorem expression_of_stray (ahead : state.cursor.peek = some found)
    (visible : Text.isBlank found = false) (stray : opensFactor found = false) :
    expression scope state =
      .error (.malformed (.expectedNumber state.cursor.position)) state := by
  obtain ⟨⟨position, _ | ⟨next, rest⟩⟩, effects⟩ := state
  · exact absurd ahead nofun
  · exact bind_of_error (bind_of_error (factorWithin_of_stray rest.length ahead visible stray) _) _

theorem assignment_of_stray (ahead : state.cursor.peek = some found)
    (visible : Text.isBlank found = false) (stray : opensFactor found = false)
    (result : Option Statement) (after : State) :
    assignment scope state ≠ .ok result after := by
  have stands : state.cursor.skipBlanks = state.cursor :=
    Cursor.skipBlanks_of_stops (Cursor.stops_of_peek ahead visible)
  have stops : state.cursor.skipBlanks.Stops isNameChar :=
    stands.symm ▸ Cursor.stops_of_peek ahead (opensFactor_eq_false_iff.mp stray).2.1
  rw [assignment, bind_of_error (identifier_of_stops stops)]
  simp

/-- A line whose first visible character begins no factor lacks a number there. -/
theorem outcome_of_stray (written : line.toList = blanks ++ found :: others) (blank : Blank blanks)
    (visible : Text.isBlank found = false) (stray : opensFactor found = false) :
    (Rule.line scope).outcome line = .error (.malformed (.expectedNumber blanks.length)) := by
  have ahead : (Cursor.ofString line).ahead = blanks ++ found :: others := written
  have stands : (Cursor.ofString line).skipBlanks = ⟨blanks.length, found :: others⟩ := by
    rw [Cursor.skipBlanks_of_ahead ahead blank visible, Cursor.ofString, Nat.zero_add]
  have next : (Cursor.mk blanks.length (found :: others)).peek = some found := rfl
  have failed : expression scope ⟨⟨blanks.length, found :: others⟩, Effects.none⟩ = _ :=
    expression_of_stray next visible stray
  have stated : statement scope (State.start line) =
      .error (.malformed (.expectedNumber blanks.length))
        ⟨⟨blanks.length, found :: others⟩, Effects.none⟩ := by
    rw [statement, skipBlanks_bind]
    simp only [State.start, stands]
    refine (orElse_of_refuses (fun result after => ?_) _).trans (bind_of_error failed _)
    exact assignment_of_stray next visible stray (some result) after
  exact outcome_of_statement_error stated

end Rule

namespace Console

variable {line : String} {timed other : Bool} {blanks others : List Char}

/-- The words of the line are `:time` and either `on` or `off`. -/
def Commands (line : String) (timed : Bool) : Prop :=
  Text.Words [":time".toList, (if timed then "on" else "off").toList] line.toList

theorem isBlankLine_iff : isBlankLine line = true ↔ Blank line.toList :=
  List.all_eq_true

theorem blank_iff_words : Blank line.toList ↔ Text.Words [] line.toList :=
  ⟨.nil, fun divided => by cases divided; assumption⟩

theorem timingCommand?_eq_some_iff : timingCommand? line = some timed ↔ Commands line timed := by
  have same : (Text.words line.toList).map String.ofList =
      [":time", if timed then "on" else "off"] ↔ Commands line timed := by
    rw [Commands, ← Text.words_eq_iff]
    constructor
    · intro words
      simpa using congrArg (List.map String.toList) words
    · intro words
      rw [words]
      simp
  rw [← same, timingCommand?]
  split
  case h_1 words => cases timed <;> simp [words]
  case h_2 words => cases timed <;> simp [words]
  case h_3 on off =>
    cases timed
    · simpa using off
    · simpa using on

instance (line : String) (timed : Bool) : Decidable (Commands line timed) :=
  decidable_of_iff _ timingCommand?_eq_some_iff

example : Commands "\t:time  off " false := by decide

/-- A line commands one thing at most. -/
theorem Commands.unique (first : Commands line timed) (second : Commands line other) :
    timed = other :=
  Option.some.inj <|
    (timingCommand?_eq_some_iff.mpr first).symm.trans (timingCommand?_eq_some_iff.mpr second)

theorem Commands.not_blank (commands : Commands line timed) : ¬ Blank line.toList := by
  intro blank
  have words := Text.words_eq_iff.mpr commands
  rw [Text.words_eq_iff.mpr (blank_iff_words.mp blank)] at words
  exact absurd words nofun

end Console

/-- A line whose first word begins with a colon is no statement. -/
theorem Session.evaluate_of_colon (noise : Noise) (session : Session) {line : String}
    {blanks others : List Char} (blank : Blank blanks)
    (written : line.toList = blanks ++ ':' :: others) :
    session.evaluate noise line =
      ⟨.error (.malformed (.expectedNumber blanks.length)), [], session⟩ := by
  rw [evaluate_eq, Rule.outcome_of_stray written blank (by decide) (by decide)]

end LineCalc
