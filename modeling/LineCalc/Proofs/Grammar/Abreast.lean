import LineCalc.Proofs.Grammar.Lockstep
import LineCalc.Proofs.Grammar.Scanning

/-!
# Readings of the same lexemes

Rules take one lexeme after another, and look up only the names that no parenthesis follows.  Two
readings therefore keep step if the same lexemes are ahead of both and the names that count have the
same values.
-/

namespace LineCalc

/-- The names among some lexemes that no parenthesis follows. -/
def bareNames : List (List Char) → List String
  | [] => []
  | lexeme :: others =>
      if lexeme.head?.any isNameChar ∧ others.head? ≠ some ['('] then
        String.ofList lexeme :: bareNames others
      else
        bareNames others

theorem mem_bareNames_cons {name : String} {lexeme : List Char} {others : List (List Char)}
    (member : name ∈ bareNames others) : name ∈ bareNames (lexeme :: others) := by
  rw [bareNames]
  split
  · exact List.mem_cons_of_mem _ member
  · exact member

namespace Cursor

/-- A relation between cursors that have the same lexemes ahead, kept when blanks or lexemes are
stepped over. -/
structure Abreast (Pair : Cursor → Cursor → Prop) : Prop where
  skip {here there : Cursor} : Pair here there → Pair here.skipBlanks there.skipBlanks
  next {here there : Cursor} : Pair here there →
    here.skipBlanks.peek = none ∧ there.skipBlanks.peek = none ∨
      ∃ first characters after otherAfter, Text.isBlank first = false ∧
        here.skipBlanks.Meets (first :: characters) after ∧
        there.skipBlanks.Meets (first :: characters) otherAfter ∧ Pair after otherAfter

end Cursor

/-- Errors of the same kind.  If they are about how the lines are written, they are at places that
correspond, before which there are no blanks. -/
inductive EvalError.Alike (Pair : Cursor → Cursor → Prop) : EvalError → EvalError → Prop
  | malformed (fault : SyntaxError) {here there : Cursor} : Pair here there →
      here.Stops Text.isBlank → there.Stops Text.isBlank →
      Alike Pair (.malformed (fault.relocate here.position))
        (.malformed (fault.relocate there.position))
  | meaningless (fault : SemanticError) : Alike Pair (.meaningless fault) (.meaningless fault)

namespace Rule

/-- Corresponding cursors, the same effects so far, and the same values for the names that are still
to be looked up. -/
structure Level (Pair : Cursor → Cursor → Prop) (first second : Bindings) (here there : State) :
    Prop where
  pair : Pair here.cursor there.cursor
  agree : ∀ name ∈ bareNames here.cursor.lexemes, first.get? name = second.get? name
  effects : here.effects = there.effects

variable {Pair : Cursor → Cursor → Prop} {first second : Bindings}
variable {here there : State} {α : Type}

namespace Level

theorem skip (abreast : Cursor.Abreast Pair) (level : Level Pair first second here there) :
    Level Pair first second ⟨here.cursor.skipBlanks, here.effects⟩
      ⟨there.cursor.skipBlanks, there.effects⟩ where
  pair := abreast.skip level.pair
  agree := by
    rw [Cursor.lexemes_skipBlanks]
    exact level.agree
  effects := level.effects

/-- Either nothing is ahead of both readings, or the same lexeme is. -/
theorem next (abreast : Cursor.Abreast Pair) (level : Level Pair first second here there) :
    here.cursor.skipBlanks.peek = none ∧ there.cursor.skipBlanks.peek = none ∨
      ∃ head characters after otherAfter, Text.isBlank head = false ∧
        here.cursor.skipBlanks.Meets (head :: characters) after ∧
        there.cursor.skipBlanks.Meets (head :: characters) otherAfter ∧
        Level Pair first second ⟨after, here.effects⟩ ⟨otherAfter, there.effects⟩ := by
  rcases abreast.next level.pair with ends |
    ⟨head, characters, after, otherAfter, visible, meets, otherMeets, pair⟩
  · exact .inl ends
  · refine .inr ⟨head, characters, after, otherAfter, visible, meets, otherMeets, pair, ?_,
      level.effects⟩
    intro name member
    apply level.agree
    rw [← Cursor.lexemes_skipBlanks, meets.lexemes visible]
    exact mem_bareNames_cons member

theorem peek (abreast : Cursor.Abreast Pair) (level : Level Pair first second here there) :
    here.cursor.skipBlanks.peek = there.cursor.skipBlanks.peek := by
  rcases level.next abreast with ⟨ends, otherEnds⟩ | ⟨_, _, _, _, _, meets, otherMeets, _⟩
  · rw [ends, otherEnds]
  · rw [Cursor.peek_of_passes meets.passes, Cursor.peek_of_passes otherMeets.passes]

end Level

/-! ## Single tokens -/

variable (abreast : Cursor.Abreast Pair)
include abreast

/-- A run of characters of one kind is read alike, if there is one. -/
theorem Level.run {wanted : Char → Bool} (level : Level Pair first second here there) :
    (here.cursor.skipBlanks.Stops wanted ∧ there.cursor.skipBlanks.Stops wanted) ∨
      ∃ head characters after otherAfter, wanted head = true ∧
        here.cursor.skipBlanks.Meets (head :: characters) after ∧
        there.cursor.skipBlanks.Meets (head :: characters) otherAfter ∧
        Level Pair first second ⟨after, here.effects⟩ ⟨otherAfter, there.effects⟩ := by
  rcases level.next abreast with ⟨ends, otherEnds⟩ |
    ⟨head, characters, after, otherAfter, _, meets, otherMeets, behind⟩
  · simp [Cursor.Stops, ends, otherEnds]
  · by_cases begins : wanted head = true
    · exact .inr ⟨head, characters, after, otherAfter, begins, meets, otherMeets, behind⟩
    · have found := Cursor.peek_of_passes meets.passes
      have otherFound := Cursor.peek_of_passes otherMeets.passes
      simp [Cursor.Stops, found, otherFound, begins]

theorem Level.unread (level : Level Pair first second here there) (fault : SyntaxError) :
    Matches (Level Pair first second) (EvalError.Alike Pair)
      (.error (.malformed (fault.relocate here.cursor.skipBlanks.position))
        ⟨here.cursor.skipBlanks, here.effects⟩ : EStateM.Result EvalError State α)
      (.error (.malformed (fault.relocate there.cursor.skipBlanks.position))
        ⟨there.cursor.skipBlanks, there.effects⟩) :=
  .error (.malformed fault (abreast.skip level.pair) here.cursor.stops_skipBlanks
    there.cursor.stops_skipBlanks) (level.skip abreast)

theorem Level.identifier (level : Level Pair first second here there) :
    Matches (Level Pair first second) (EvalError.Alike Pair) (identifier here)
      (Rule.identifier there) := by
  rcases level.run abreast with ⟨stops, otherStops⟩ |
    ⟨head, characters, after, otherAfter, letter, meets, otherMeets, behind⟩
  · rw [identifier_of_stops stops, identifier_of_stops otherStops]
    exact level.unread abreast (.expectedIdentifier 0)
  · rw [identifier_of_meets letter meets, identifier_of_meets letter otherMeets]
    exact .ok _ behind

theorem Level.number (level : Level Pair first second here there) :
    Matches (Level Pair first second) (EvalError.Alike Pair) (number here)
      (Rule.number there) := by
  rcases level.run abreast with ⟨stops, otherStops⟩ |
    ⟨head, characters, after, otherAfter, digit, meets, otherMeets, behind⟩
  · rw [number_of_stops stops, number_of_stops otherStops]
    exact level.unread abreast (.expectedNumber 0)
  · rw [number_of_meets digit meets, number_of_meets digit otherMeets]
    exact .ok _ behind

/-- Where both readings are at one visible character, they are at one lexeme. -/
theorem Level.begins (level : Level Pair first second here there) {head : Char}
    (found : here.cursor.peek = some head) (otherFound : there.cursor.peek = some head)
    (visible : Text.isBlank head = false) :
    ∃ characters after otherAfter, here.cursor.Meets (head :: characters) after ∧
      there.cursor.Meets (head :: characters) otherAfter ∧
      Level Pair first second ⟨after, here.effects⟩ ⟨otherAfter, there.effects⟩ := by
  have next := level.next abreast
  rw [Cursor.skipBlanks_of_stops (Cursor.stops_of_peek found visible),
    Cursor.skipBlanks_of_stops (Cursor.stops_of_peek otherFound visible)] at next
  rcases next with ⟨ends, _⟩ |
    ⟨other, characters, after, otherAfter, _, meets, otherMeets, behind⟩
  · rw [found] at ends
    exact absurd ends (by simp)
  · obtain rfl : head = other := by
      simpa [Cursor.peek_of_passes meets.passes] using found.symm
    exact ⟨characters, after, otherAfter, meets, otherMeets, behind⟩

theorem Level.string (level : Level Pair first second here there)
    (quote : here.cursor.peek = some '"') (otherQuote : there.cursor.peek = some '"') :
    Matches (Level Pair first second) (EvalError.Alike Pair) (string here)
      (Rule.string there) := by
  have visible : Text.isBlank '"' = false := by decide
  obtain ⟨characters, after, otherAfter, meets, otherMeets, behind⟩ :=
    level.begins abreast quote otherQuote visible
  rw [string_of_meets meets, string_of_meets otherMeets]
  split
  · exact .ok _ behind
  · exact .error (.malformed (.unterminatedString 0) level.pair
      (Cursor.stops_of_peek quote visible) (Cursor.stops_of_peek otherQuote visible)) behind

theorem Level.step (level : Level Pair first second here there) {mark : Char}
    (known : mark ∈ marks) (found : here.cursor.peek = some mark)
    (otherFound : there.cursor.peek = some mark) :
    Level Pair first second ⟨here.cursor.bump.2, here.effects⟩
      ⟨there.cursor.bump.2, there.effects⟩ := by
  obtain ⟨characters, after, otherAfter, meets, otherMeets, behind⟩ :=
    level.begins abreast found otherFound (isBlank_of_mark known)
  rwa [meets.bump known, otherMeets.bump known]

/-- A name that is looked up has the same value for both readings. -/
theorem Level.bound (level : Level Pair first second here there) {name : String} {after : State}
    (read : Rule.identifier here = .ok name after)
    (bare : after.cursor.skipBlanks.peek ≠ some '(') : first.get? name = second.get? name := by
  rcases level.run abreast with ⟨stops, _⟩ | ⟨head, characters, middle, _, letter, meets, _⟩
  · rw [identifier_of_stops stops] at read
    exact absurd read (by simp)
  · rw [identifier_of_meets letter meets] at read
    obtain ⟨rfl, rfl⟩ := EStateM.Result.ok.inj read
    have follows : middle.lexemes.head? ≠ some ['('] := by
      intro opens
      rw [Cursor.peek_skipBlanks, opens] at bare
      exact bare rfl
    apply level.agree
    rw [← Cursor.lexemes_skipBlanks, meets.lexemes (isBlank_of_isNameChar letter), bareNames,
      if_pos ⟨letter, follows⟩]
    exact List.mem_cons_self

omit abreast in
theorem Level.call (noise : Noise) (level : Level Pair first second here there) (builtin : Builtin)
    (operands : List Operand) :
    Matches (Level Pair first second) (EvalError.Alike Pair)
      (call ⟨first, noise⟩ builtin operands here)
      (Rule.call ⟨second, noise⟩ builtin operands there) := by
  unfold Rule.call
  rw [← level.effects]
  cases called : builtin.call noise operands here.effects with
  | ok reached => exact .ok _ ⟨level.pair, level.agree, rfl⟩
  | error error =>
      obtain ⟨fault, rfl⟩ := builtin.semantic_call noise operands here.effects error called
      exact .error (.meaningless fault) level

/-- Readings of the same lexemes keep step if they agree on the names that are looked up. -/
theorem Level.lockstep (noise : Noise) :
    Lockstep ⟨first, noise⟩ ⟨second, noise⟩ (Level Pair first second) (EvalError.Alike Pair) where
  skip level := level.skip abreast
  peek level := level.peek abreast
  step level known found otherFound := level.step abreast known found otherFound
  string level quote otherQuote := level.string abreast quote otherQuote
  number level := level.number abreast
  identifier level := level.identifier abreast
  bound level read _ bare := level.bound abreast read bare
  call builtin operands level := level.call noise builtin operands
  place fault level stops otherStops := .malformed fault level.pair stops otherStops
  meaning := .meaningless

end Rule

end LineCalc
