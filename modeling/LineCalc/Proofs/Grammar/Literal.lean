import LineCalc.Proofs.Grammar.Computation

/-!
# Literals, names and what may follow them

The rules for single tokens.  A number or a name extends as far as it can, so that it has to be
followed by something else; the characters that may follow a phrase are its closers.
-/

namespace LineCalc

/-- The characters that may follow a phrase, blanks apart, without being part of it. -/
def Category.closers : Category → List Char
  | factor => ['*', '/', '%', '+', '-', ')', ',', '=']
  | term => ['+', '-', ')', ',', '=']
  | expression => [')', ',', '=']
  | list | arguments => [')']

namespace Cursor

/-- The next character that is not blank, if there is one, is one of the given ones. -/
def Ends (cursor : Cursor) (closers : List Char) : Prop :=
  ∀ next, cursor.skipBlanks.peek = some next → next ∈ closers

namespace Ends

variable {cursor : Cursor} {closers : List Char}

theorem mono {others : List Char} (ends : cursor.Ends closers) (subset : closers ⊆ others) :
    cursor.Ends others :=
  fun next found => subset (ends next found)

theorem skipBlanks (ends : cursor.Ends closers) : cursor.skipBlanks.Ends closers := by
  intro next found
  rw [skipBlanks_skipBlanks] at found
  exact ends next found

theorem of_slides {after : Cursor} (ends : after.Ends closers) (slides : cursor.Slides after) :
    cursor.Ends closers := by
  intro next found
  rw [slides.skipBlanks_eq] at found
  exact ends next found

theorem of_passes {character : Char} {text : List Char} {after : Cursor}
    (passes : cursor.skipBlanks.Passes (character :: text) after) (closes : character ∈ closers) :
    cursor.Ends closers := by
  intro next found
  rw [peek_of_passes passes, Option.some.injEq] at found
  exact found ▸ closes

theorem peek_ne {character : Char} (ends : cursor.Ends closers)
    (open' : character ∉ closers) : cursor.skipBlanks.peek ≠ some character :=
  fun found => open' (ends character found)

/-- Where a phrase ends, a run of characters that are neither blank nor closers ends too. -/
theorem stops {wanted : Char → Bool} (ends : cursor.Ends closers)
    (refused : ∀ character ∈ closers, wanted character = false)
    (visible : ∀ character, wanted character = true → Text.isBlank character = false) :
    cursor.Stops wanted := by
  intro next found
  rw [Bool.eq_false_iff]
  intro taken
  have here : cursor.skipBlanks = cursor := by
    apply skipBlanks_of_stops
    intro other same
    rw [found, Option.some.injEq] at same
    exact same ▸ visible next taken
  have closes : next ∈ closers := ends next (by rw [here]; exact found)
  simp [refused next closes] at taken

end Ends

end Cursor

namespace Rule

variable {before after : Cursor}

theorem computes_string {content : List Char} (unquoted : '"' ∉ content)
    (passes : before.Passes (Token.text content unquoted).characters after) :
    string.Computes before after (pure (String.ofList content)) := by
  obtain ⟨inside, opening, passes⟩ := passes.divide_cons
  obtain ⟨behind, body, closing⟩ := passes.divide
  have stops : behind.Stops fun character => decide (character ≠ '"') :=
    Cursor.stops_of_peek (Cursor.peek_of_passes closing) (by decide)
  exact (computes_position before).followed <| (computes_bump opening).followed <|
    (computes_takeWhile body (forall_ne_quote unquoted) stops).followed <|
    (computes_eat closing).followed <| computes_pure after _

theorem computes_identifier {letters : Run isNameChar}
    (passes : before.skipBlanks.Passes letters.characters after)
    (stops : after.Stops isNameChar) :
    identifier.Computes before after (pure (String.ofList letters.characters)) := by
  refine (computes_skipBlanks before).followed <| (computes_position _).followed <|
    (computes_takeWhile passes letters.all stops).followed ?_
  rw [if_neg letters.nonempty]
  exact computes_pure after _

/-- Without a point and a digit, a number has no places. -/
theorem computes_fraction_none (noPoint : after.peek ≠ some '.') :
    fraction.Computes after after (pure []) := by
  intro effects
  change fraction ⟨after, effects⟩ = .ok [] ⟨after, effects⟩
  simp [fraction, noPoint]

theorem computes_fraction_some {places : Run Char.isDigit}
    (passes : before.Passes ('.' :: places.characters) after) (stops : after.Stops Char.isDigit) :
    fraction.Computes before after (pure places.characters) := by
  obtain ⟨middle, point, digits⟩ := passes.divide_cons
  obtain ⟨first, others, split, digit⟩ := places.exists_cons
  have next : before.peekAt 1 = some first := by
    simp [Cursor.peekAt, passes.ahead, split]
  have steps : (do bump; takeWhile Char.isDigit : Rule (List Char)).Computes before after
      (pure places.characters) :=
    (computes_bump point).followed (computes_takeWhile digits places.all stops)
  intro effects
  change fraction ⟨before, effects⟩ = .ok places.characters ⟨after, effects⟩
  rw [fraction, if_pos ⟨Cursor.peek_of_passes passes, by simpa [next] using digit⟩]
  exact steps effects

theorem computes_number {whole : Run Char.isDigit} {places : Option (Run Char.isDigit)}
    (passes : before.skipBlanks.Passes (Token.number whole places).characters after)
    (ends : after.Ends Category.factor.closers) :
    number.Computes before after
      (pure ((Decimal.ofDigits whole.characters (places.elim [] Run.characters)).toDouble
        false)) := by
  have digitsStop : after.Stops Char.isDigit :=
    ends.stops (forall_mem_of_all (by decide)) fun _ => isBlank_of_isDigit
  refine (computes_skipBlanks before).followed <| (computes_position _).followed ?_
  cases places with
  | none =>
      have digits : before.skipBlanks.Passes whole.characters after := passes
      refine (computes_takeWhile digits whole.all digitsStop).followed ?_
      have noPoint : after.peek ≠ some '.' := by
        intro point
        have stops : after.Stops (· == '.') :=
          ends.stops (forall_mem_of_all (by decide)) fun character equal => by simp_all; decide
        simpa using stops '.' point
      rw [if_neg whole.nonempty]
      exact (computes_fraction_none noPoint).followed (computes_pure after _)
  | some places =>
      obtain ⟨middle, digits, point⟩ := Cursor.Passes.divide passes
      have stops : middle.Stops Char.isDigit :=
        Cursor.stops_of_peek (Cursor.peek_of_passes point) (by decide)
      refine (computes_takeWhile digits whole.all stops).followed ?_
      rw [if_neg whole.nonempty]
      exact (computes_fraction_some point digitsStop).followed (computes_pure after _)

theorem computes_closingParen (passes : before.Passes [')'] after) :
    closingParen.Computes before after (pure ()) :=
  (computes_position before).followed <| (computes_eat passes).followed <| computes_pure after ()

end Rule

end LineCalc
