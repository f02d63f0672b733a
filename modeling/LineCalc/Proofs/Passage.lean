import LineCalc.Cursor
import LineCalc.Line.Literal

/-!
# Passages

A passage leads a cursor over a text that lies ahead of it.  The operations of the cursor are
described by the passages they make: stepping over blanks or over a run of wanted characters ends
where the first character refuses, and a passage can be divided wherever its text can.
-/

namespace LineCalc

/-- What holds of every character in a list can be computed. -/
theorem forall_mem_of_all {characters : List Char} {Holds : Char → Prop} [DecidablePred Holds]
    (all : (characters.all fun character => decide (Holds character)) = true) :
    ∀ character ∈ characters, Holds character := by
  simpa using all

/-- Are all characters of a text blank? -/
def Blank (text : List Char) : Prop :=
  ∀ character ∈ text, Text.isBlank character = true

instance (text : List Char) : Decidable (Blank text) :=
  decidable_of_iff (text.all Text.isBlank = true) List.all_eq_true

namespace Blank

theorem nil : Blank [] := by
  simp [Blank]

theorem append {left right : List Char} (leftBlank : Blank left) (rightBlank : Blank right) :
    Blank (left ++ right) := by
  intro character member
  rcases List.mem_append.mp member with member | member
  · exact leftBlank character member
  · exact rightBlank character member

end Blank

namespace Cursor

/-- The text ahead of the first cursor begins with the given one, behind which the second cursor
stands. -/
structure Passes (before : Cursor) (text : List Char) (after : Cursor) : Prop where
  ahead : before.ahead = text ++ after.ahead
  position : after.position = before.position + text.length

variable {before middle after : Cursor} {text left right : List Char}

namespace Passes

theorem refl (cursor : Cursor) : cursor.Passes [] cursor :=
  ⟨rfl, rfl⟩

theorem trans (first : before.Passes left middle) (second : middle.Passes right after) :
    before.Passes (left ++ right) after := by
  constructor
  · rw [first.ahead, second.ahead, List.append_assoc]
  · rw [second.position, first.position, List.length_append, Nat.add_assoc]

/-- A passage over two texts stops between them. -/
theorem divide (whole : before.Passes (left ++ right) after) :
    ∃ middle, before.Passes left middle ∧ middle.Passes right after := by
  refine ⟨⟨before.position + left.length, right ++ after.ahead⟩, ⟨?_, rfl⟩, ⟨rfl, ?_⟩⟩
  · rw [whole.ahead, List.append_assoc]
  · rw [whole.position, List.length_append, Nat.add_assoc]

theorem divide_cons {character : Char} (whole : before.Passes (character :: right) after) :
    ∃ middle, before.Passes [character] middle ∧ middle.Passes right after :=
  divide (show before.Passes ([character] ++ right) after from whole)

theorem eq_of_nil (passes : before.Passes [] after) : before = after := by
  obtain ⟨ahead, position⟩ := passes
  cases before
  cases after
  simp_all

/-- The text and the beginning of a passage determine its end. -/
theorem unique {other : Cursor} (first : before.Passes text after)
    (second : before.Passes text other) : after = other := by
  obtain ⟨ahead, position⟩ := first
  obtain ⟨otherAhead, otherPosition⟩ := second
  cases after
  cases other
  simp_all

theorem length (passes : before.Passes text after) :
    before.ahead.length = text.length + after.ahead.length := by
  rw [passes.ahead, List.length_append]

end Passes

/-! ## Single characters -/

theorem peek_of_passes {character : Char} (passes : before.Passes (character :: text) after) :
    before.peek = some character := by
  simp [peek, passes.ahead]

theorem bump_of_passes {character : Char} (passes : before.Passes [character] after) :
    before.bump = (some character, after) := by
  have bumped : before.Passes [character] before.bump.2 := by
    constructor
    · simp [bump, passes.ahead]
    · simp [bump, passes.ahead]
  have found : before.bump.1 = some character := by
    simp [bump, passes.ahead]
  exact Prod.ext found (bumped.unique passes)

theorem passes_bump {character : Char} (found : before.peek = some character) :
    before.Passes [character] before.bump.2 := by
  obtain ⟨position, _ | ⟨next, rest⟩⟩ := before
  · simp [peek] at found
  · obtain rfl : next = character := by simpa [peek] using found
    exact ⟨rfl, rfl⟩

theorem eat_of_passes {character : Char} (passes : before.Passes [character] after) :
    before.eat character = (true, after) := by
  simp [eat, peek_of_passes passes, bump_of_passes passes]

theorem eat_of_ne {expected : Char} (other : before.peek ≠ some expected) :
    before.eat expected = (false, before) := by
  simp [eat, other]

/-! ## Runs of characters -/

/-- The next character, if there is one, is refused. -/
def Stops (wanted : Char → Bool) (cursor : Cursor) : Prop :=
  ∀ next, cursor.peek = some next → wanted next = false

theorem stops_of_nil {wanted : Char → Bool} (nothing : before.ahead = []) :
    before.Stops wanted := by
  simp [Stops, peek, nothing]

theorem stops_of_peek {wanted : Char → Bool} {next : Char} (found : before.peek = some next)
    (refused : wanted next = false) : before.Stops wanted := by
  intro other same
  obtain rfl : next = other := Option.some.inj (found.symm.trans same)
  exact refused

theorem takeWhile_of_passes {wanted : Char → Bool} (passes : before.Passes text after)
    (all : ∀ character ∈ text, wanted character = true) (stops : after.Stops wanted) :
    before.takeWhile wanted = (text, after) := by
  have refused : after.ahead.takeWhile wanted = [] ∧
      after.ahead.dropWhile wanted = after.ahead := by
    cases ahead : after.ahead with
    | nil => simp
    | cons next rest =>
        have refused : wanted next = false := stops next (by simp [peek, ahead])
        simp [refused]
  have taken : (text ++ after.ahead).takeWhile wanted = text := by
    rw [List.takeWhile_append_of_pos all, refused.1, List.append_nil]
  have dropped : (text ++ after.ahead).dropWhile wanted = after.ahead := by
    rw [List.dropWhile_append_of_pos all, refused.2]
  rw [takeWhile, passes.ahead, taken, dropped, ← passes.position]

/-- Two runs of wanted characters from one place end together. -/
theorem Passes.eq_of_stops {wanted : Char → Bool} {other : Cursor}
    (first : before.Passes left after) (second : before.Passes right other)
    (leftAll : ∀ character ∈ left, wanted character = true) (leftStops : after.Stops wanted)
    (rightAll : ∀ character ∈ right, wanted character = true) (rightStops : other.Stops wanted) :
    after = other := by
  have here := takeWhile_of_passes first leftAll leftStops
  have there := takeWhile_of_passes second rightAll rightStops
  exact congrArg Prod.snd (here.symm.trans there)

theorem passes_takeWhile (cursor : Cursor) (wanted : Char → Bool) :
    cursor.Passes (cursor.takeWhile wanted).1 (cursor.takeWhile wanted).2 :=
  ⟨List.takeWhile_append_dropWhile.symm, rfl⟩

theorem wanted_of_mem_takeWhile {cursor : Cursor} {wanted : Char → Bool} {character : Char}
    (member : character ∈ (cursor.takeWhile wanted).1) : wanted character = true :=
  List.all_eq_true.mp List.all_takeWhile character member

theorem stops_takeWhile (cursor : Cursor) (wanted : Char → Bool) :
    (cursor.takeWhile wanted).2.Stops wanted := by
  intro next found
  have refused := List.head?_dropWhile_not wanted cursor.ahead
  rw [show (cursor.ahead.dropWhile wanted).head? = some next from found] at refused
  simpa using refused

/-! ## Blanks -/

theorem skipBlanks_of_passes (passes : before.Passes text after) (blank : Blank text)
    (stops : after.Stops Text.isBlank) : before.skipBlanks = after := by
  rw [skipBlanks, takeWhile_of_passes passes blank stops]

theorem exists_passes_skipBlanks (cursor : Cursor) :
    ∃ blanks, Blank blanks ∧ cursor.Passes blanks cursor.skipBlanks :=
  ⟨(cursor.takeWhile Text.isBlank).1, fun _ member => wanted_of_mem_takeWhile member,
    passes_takeWhile cursor Text.isBlank⟩

theorem stops_skipBlanks (cursor : Cursor) : cursor.skipBlanks.Stops Text.isBlank :=
  stops_takeWhile cursor Text.isBlank

theorem skipBlanks_of_stops {cursor : Cursor} (stops : cursor.Stops Text.isBlank) :
    cursor.skipBlanks = cursor :=
  skipBlanks_of_passes (.refl cursor) .nil stops

@[simp]
theorem skipBlanks_skipBlanks (cursor : Cursor) :
    cursor.skipBlanks.skipBlanks = cursor.skipBlanks :=
  skipBlanks_of_stops cursor.stops_skipBlanks

/-- Only blanks stand between two cursors. -/
def Slides (before after : Cursor) : Prop :=
  ∃ blanks, Blank blanks ∧ before.Passes blanks after

namespace Slides

theorem refl (cursor : Cursor) : cursor.Slides cursor :=
  ⟨[], .nil, .refl cursor⟩

theorem skipBlanks (cursor : Cursor) : cursor.Slides cursor.skipBlanks :=
  cursor.exists_passes_skipBlanks

theorem trans (first : before.Slides middle) (second : middle.Slides after) :
    before.Slides after := by
  obtain ⟨left, leftBlank, leftPasses⟩ := first
  obtain ⟨right, rightBlank, rightPasses⟩ := second
  exact ⟨left ++ right, leftBlank.append rightBlank, leftPasses.trans rightPasses⟩

/-- Stepping over blanks ends at the same place from anywhere between them. -/
theorem skipBlanks_eq (slides : before.Slides after) : before.skipBlanks = after.skipBlanks := by
  obtain ⟨blanks, blank, passes⟩ := slides.trans (skipBlanks after)
  exact skipBlanks_of_passes passes blank after.stops_skipBlanks

theorem length_le (slides : before.Slides after) : after.ahead.length ≤ before.ahead.length := by
  obtain ⟨blanks, _, passes⟩ := slides
  rw [passes.length]
  exact Nat.le_add_left _ _

end Slides

/-- A passage behind blanks leaves less ahead. -/
theorem length_lt_of_skipBlanks_passes {character : Char}
    (passes : before.skipBlanks.Passes (character :: text) after) :
    after.ahead.length < before.ahead.length := by
  have skipped := (Slides.skipBlanks before).length_le
  rw [passes.length, List.length_cons] at skipped
  omega

end Cursor

end LineCalc
