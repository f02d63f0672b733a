import LineCalc.Proofs.Grammar.Abreast
import LineCalc.Session

/-!
# Layout

Blanks between lexemes do not matter.  Lines with the same lexemes come to the same; if they fail,
they fail for the same reason and at the same lexeme.
-/

namespace LineCalc

/-- The same error of two lines.  An error about how the lines are written is at the lexeme with the
same number in both, or at the end of both. -/
inductive EvalError.Corresponds (line other : String) : EvalError → EvalError → Prop
  | malformed (fault : SyntaxError) {number position otherPosition : Nat} :
      (places line)[number]? = some position → (places other)[number]? = some otherPosition →
      Corresponds line other (.malformed (fault.relocate position))
        (.malformed (fault.relocate otherPosition))
  | meaningless (fault : SemanticError) :
      Corresponds line other (.meaningless fault) (.meaningless fault)

namespace Cursor

/-- The same number of lexemes of two lines has been passed, and the others are the same. -/
def SamePlace (line other : String) (here there : Cursor) : Prop :=
  here.lexemes = there.lexemes ∧ ∃ passed, here.places = (LineCalc.places line).drop passed ∧
    there.places = (LineCalc.places other).drop passed

variable {line other : String} {here there : Cursor}

theorem abreast_samePlace (line other : String) : Abreast (SamePlace line other) where
  skip := by
    intro here there same
    simpa only [SamePlace, lexemes_skipBlanks, places_skipBlanks] using same
  next := by
    intro here there same
    obtain ⟨lexemes, passed, places, otherPlaces⟩ := same
    have next : here.skipBlanks.peek = there.skipBlanks.peek := by
      rw [peek_skipBlanks, peek_skipBlanks, lexemes]
    cases found : here.skipBlanks.peek with
    | none => exact .inl ⟨rfl, next.symm.trans found⟩
    | some first =>
        have visible : Text.isBlank first = false := here.stops_skipBlanks first found
        obtain ⟨characters, after, meets⟩ := exists_meets found
        obtain ⟨otherCharacters, otherAfter, otherMeets⟩ := exists_meets (next ▸ found)
        rw [← lexemes_skipBlanks, meets.lexemes visible, ← lexemes_skipBlanks there,
          otherMeets.lexemes visible] at lexemes
        -- The same lexeme is next, and the places behind it are those with one more passed.
        obtain ⟨same, behind⟩ := List.cons.inj lexemes
        obtain rfl := (List.cons.inj same).2
        refine .inr ⟨first, characters, after, otherAfter, visible, meets, otherMeets, behind,
          passed + 1, ?_, ?_⟩
        · rw [← places_skipBlanks, meets.places visible] at places
          rw [← List.tail_drop, ← places, List.tail_cons]
        · rw [← places_skipBlanks, otherMeets.places visible] at otherPlaces
          rw [← List.tail_drop, ← otherPlaces, List.tail_cons]

/-- A cursor before which there are no blanks is at the first of its places. -/
theorem head?_places (stops : here.Stops Text.isBlank) :
    here.places.head? = some here.position := by
  cases found : here.peek with
  | none => rw [places_of_peek found, List.head?_cons]
  | some first =>
      obtain ⟨characters, after, meets⟩ := exists_meets found
      rw [meets.places (stops first found), List.head?_cons]

end Cursor

theorem EvalError.Alike.corresponds {line other : String} {error otherError : EvalError}
    (alike : Alike (Cursor.SamePlace line other) error otherError) :
    Corresponds line other error otherError := by
  cases alike with
  | malformed fault same stops otherStops =>
      obtain ⟨_, passed, places, otherPlaces⟩ := same
      have position := Cursor.head?_places stops
      have otherPosition := Cursor.head?_places otherStops
      rw [places, List.head?_drop] at position
      rw [otherPlaces, List.head?_drop] at otherPosition
      exact .malformed fault position otherPosition
  | meaningless fault => exact .meaningless fault

namespace Session

/-- Two lines with the same lexemes ask the same of the console, leave the same session, and give
the same value or none, or fail with errors that correspond. -/
theorem evaluate_of_lexemes (noise : Noise) (session : Session) {line other : String}
    (same : lexemes line = lexemes other) :
    (session.evaluate noise line).events = (session.evaluate noise other).events ∧
      (session.evaluate noise line).session = (session.evaluate noise other).session ∧
      match (session.evaluate noise line).result, (session.evaluate noise other).result with
      | .ok result, .ok otherResult => result = otherResult
      | .error error, .error otherError => error.Corresponds line other otherError
      | _, _ => False := by
  have level : Rule.Level (Cursor.SamePlace line other) session.bindings session.bindings
      (State.start line) (State.start other) :=
    ⟨⟨same, 0, rfl, rfl⟩, fun _ _ => rfl, rfl⟩
  have read := (Rule.Level.lockstep (Cursor.abreast_samePlace line other) noise).line level
  unfold evaluate
  generalize Rule.line ⟨session.bindings, noise⟩ (State.start line) = result at read ⊢
  generalize Rule.line ⟨session.bindings, noise⟩ (State.start other) = otherResult at read ⊢
  cases read with
  | error alike _ => exact ⟨rfl, rfl, alike.corresponds⟩
  | ok statement later =>
      cases statement with
      | assignment name value => exact ⟨congrArg Effects.events later.effects, rfl, rfl⟩
      | expression operand =>
          cases operand with
          | value content | nothing builtin =>
              exact ⟨congrArg Effects.events later.effects, rfl, rfl⟩
          | function builtin => exact ⟨rfl, rfl, .meaningless _⟩

/-- The parenthesis that is not expected is the seventh lexeme of both lines. -/
theorem evaluate_spaced :
    lexemes "max\u2003(2 ,\t\"a  b\")  )" = lexemes "max(2,\"a  b\"))" ∧
      ∃ error, (fresh.evaluate (fun _ => .nan) "max\u2003(2 ,\t\"a  b\")  )").result =
          .error error ∧
        error.Corresponds "max\u2003(2 ,\t\"a  b\")  )" "max(2,\"a  b\"))"
          (.malformed (.unexpectedCharacter ')' 13)) := by
  have same : lexemes "max\u2003(2 ,\t\"a  b\")  )" = lexemes "max(2,\"a  b\"))" := by
    decide +kernel
  have failed : (fresh.evaluate (fun _ => .nan) "max(2,\"a  b\"))").result =
      .error (.malformed (.unexpectedCharacter ')' 13)) := by
    decide +kernel
  obtain ⟨_, _, alike⟩ := evaluate_of_lexemes (fun _ => .nan) fresh same
  rw [failed] at alike
  refine ⟨same, ?_⟩
  cases result : (fresh.evaluate (fun _ => .nan) "max\u2003(2 ,\t\"a  b\")  )").result with
  | ok value =>
      rw [result] at alike
      exact absurd alike id
  | error error =>
      rw [result] at alike
      exact ⟨error, rfl, alike⟩

end Session

end LineCalc
