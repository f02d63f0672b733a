import LineCalc.Proofs.Double.Display
import LineCalc.Proofs.Session.Atomic

/-!
# Numbers entered as they are displayed

A number that is displayed without an exponent can be entered again: the line that consists of its
text returns the number.  Every number can be passed on as a text.
-/

namespace LineCalc.Session

variable {number : Double}

theorem evaluate_token (whole : Run Char.isDigit) (places : Option (Run Char.isDigit))
    (noise : Noise) (session : Session) :
    let decimal := Decimal.ofDigits whole.characters (places.elim [] Run.characters)
    session.evaluate noise (String.ofList (Token.number whole places).characters) =
      ⟨.ok (some (.number (decimal.toDouble false))), [], session⟩ := by
  intro decimal
  let tree : Tree .expression := .term (.factor (.number whole places))
  have derives : tree.Derives (String.ofList (Token.number whole places).characters) := by
    refine ⟨_, [], ?_, .cons (.number whole places) .nil .nil, .nil⟩
    simp
  have reads : Reading ⟨session.bindings, noise⟩ _
      (.expression (.value (.number (decimal.toDouble false)))) [] :=
    .expression tree derives (.term (.factor (.number whole places _)))
  rw [evaluate_of_reading reads]
  rfl

theorem evaluate_minus_token (whole : Run Char.isDigit) (places : Option (Run Char.isDigit))
    (noise : Noise) (session : Session) :
    let decimal := Decimal.ofDigits whole.characters (places.elim [] Run.characters)
    session.evaluate noise (String.ofList ('-' :: (Token.number whole places).characters)) =
      ⟨.ok (some (.number (decimal.toDouble false).neg)), [], session⟩ := by
  intro decimal
  let tree : Tree .expression := .term (.factor (.minus (.number whole places)))
  have derives : tree.Derives (String.ofList ('-' :: (Token.number whole places).characters)) := by
    refine ⟨_, [], ?_, .cons (.symbol '-') .nil (.cons (.number whole places) .nil .nil), .nil⟩
    simp [Token.characters]
  have reads : Reading ⟨session.bindings, noise⟩ _
      (.expression (.value (.number (decimal.toDouble false).neg))) [] :=
    .expression tree derives (.term (.factor (.minus (.number whole places _))))
  rw [evaluate_of_reading reads]
  rfl

theorem evaluate_display (plain : number.Plain) (noise : Noise) (session : Session) :
    session.evaluate noise number.display = ⟨.ok (some (.number number)), [], session⟩ := by
  obtain ⟨whole, places, written, reads⟩ :=
    Double.exists_displayMagnitude_eq plain.toRat_pos plain
  have evaluated := evaluate_token whole places noise session
  rw [Double.display_of_pos plain.toRat_pos, written, evaluated, reads]

theorem evaluate_display_neg (plain : number.Plain) (noise : Noise) (session : Session) :
    session.evaluate noise number.neg.display =
      ⟨.ok (some (.number number.neg)), [], session⟩ := by
  obtain ⟨whole, places, written, reads⟩ :=
    Double.exists_displayMagnitude_eq plain.toRat_pos plain
  have evaluated := evaluate_minus_token whole places noise session
  rw [Double.display_neg plain.toRat_pos, written, evaluated, reads]

/-- Reading undoes displaying, except that it cannot bring back the sign of a zero: the text of a
number stands for that number, and is a line that returns it and leaves the session alone if the
number is zero or of the size that is displayed without an exponent. -/
theorem display_is_read_back :
    (∀ number : Double, Double.ofText number.display =
      if number = .zero true then .zero false else number) ∧
    ∀ (number : Double) (noise : Noise) (session : Session),
      (∃ negative, number = .zero negative) ∨ number.abs.Plain →
        session.evaluate noise number.display =
          ⟨.ok (some (.number (if number = .zero true then .zero false else number))), [],
            session⟩ := by
  refine ⟨Double.ofText_display_eq, ?_⟩
  rintro number noise session (⟨negative, rfl⟩ | plain)
  · have evaluated :=
      evaluate_token ⟨['0'], by decide, forall_mem_of_all (by decide)⟩ none noise session
    cases negative with
    | false => exact evaluated
    | true => exact evaluated
  · generalize is : number.abs = size at plain
    rcases Double.eq_or_eq_neg is with rfl | rfl
    · rw [if_neg (Double.ne_zero plain.toRat_pos true)]
      exact evaluate_display plain noise session
    · rw [if_neg (Double.neg_ne_zero plain.toRat_pos true)]
      exact evaluate_display_neg plain noise session

/-- A whole number can have more digits than are needed to tell it from other doubles. -/
theorem displayed_digits_are_read_back :
    let number : Double := .finite true 7535204407491802 14 (by decide)
    number.abs.Plain ∧ Double.ofText "-123456789012345683968" = number ∧
      fresh.evaluate (fun _ => .nan) "-123456789012345683968" =
        ⟨.ok (some (.number number)), [], fresh⟩ := by
  intro number
  have plain : number.abs.Plain := ⟨by decide +kernel, by decide +kernel⟩
  have displayed : number.display = "-123456789012345683968" := by decide +kernel
  rw [← displayed]
  exact ⟨plain, display_is_read_back.1 number, display_is_read_back.2 number _ _ (.inr plain)⟩

end LineCalc.Session
