import LineCalc.Proofs.Grammar.Fault

/-!
# Moves

A move looks at the text ahead or steps over some of it.  A cursor keeps nothing but what is ahead
of it.  A pointer keeps the whole text and a place in it: it goes on place by place, and what it has
taken it cuts out of the text, which fails unless the two ends are places of the text in this order.
In a text, cursors and pointers move alike, so that the cut is always one that can be made.
-/

namespace LineCalc

/-- What can be done with the text ahead. -/
inductive Move where
  | peek
  | peekAt (offset : Nat)
  | bump
  | eat (expected : Char)
  | skipBlanks
  | takeWhile (wanted : Char → Bool)

/-- What a move reports. -/
inductive Answer where
  | nothing
  | next (character : Option Char)
  | eaten (whether : Bool)
  | taken (text : List Char)
  deriving DecidableEq

/-- The characters that a move steps over as long as they come, if it is such a move. -/
def Move.wanted? : Move → Option (Char → Bool)
  | .skipBlanks => some Text.isBlank
  | .takeWhile wanted => some wanted
  | .peek | .peekAt _ | .bump | .eat _ => none

/-- The part of a text from one place to another, if there is one. -/
def Text.between? (text : List Char) (first last : Nat) : Option (List Char) :=
  if first ≤ last ∧ last ≤ text.length then some ((text.take last).drop first) else none

namespace Cursor

def move (cursor : Cursor) : Move → Answer × Cursor
  | .peek => (.next cursor.peek, cursor)
  | .peekAt offset => (.next (cursor.peekAt offset), cursor)
  | .bump => (.next cursor.bump.1, cursor.bump.2)
  | .eat expected => (.eaten (cursor.eat expected).1, (cursor.eat expected).2)
  | .skipBlanks => (.nothing, cursor.skipBlanks)
  | .takeWhile wanted => (.taken (cursor.takeWhile wanted).1, (cursor.takeWhile wanted).2)

/-- The characters that a move steps over. -/
def passed (cursor : Cursor) : Move → List Char
  | .peek | .peekAt _ => []
  | .bump => cursor.bump.1.toList
  | .eat expected => if (cursor.eat expected).1 then [expected] else []
  | .skipBlanks => (cursor.takeWhile Text.isBlank).1
  | .takeWhile wanted => (cursor.takeWhile wanted).1

variable {cursor after : Cursor} {source text : List Char} {wanted : Char → Bool}

/-- Every move leads over the characters that it steps over. -/
theorem passes_move (cursor : Cursor) (move : Move) :
    cursor.Passes (cursor.passed move) (cursor.move move).2 := by
  cases move with
  | peek | peekAt offset => exact .refl cursor
  | bump =>
      obtain ⟨position, _ | ⟨next, others⟩⟩ := cursor
      · exact .refl _
      · exact passes_bump rfl
  | eat expected =>
      unfold Cursor.passed Cursor.move
      by_cases found : cursor.peek = some expected
      · simp only [eat_of_passes (passes_bump found)]
        exact passes_bump found
      · simp only [eat_of_ne found]
        exact .refl cursor
  | skipBlanks => exact cursor.passes_takeWhile Text.isBlank
  | takeWhile wanted => exact cursor.passes_takeWhile wanted

/-- A move over wanted characters ends at the first one that is refused, or where the text ends. -/
theorem stops_move (cursor : Cursor) {move : Move} (seeks : move.wanted? = some wanted) :
    (∀ character ∈ cursor.passed move, wanted character = true) ∧
      (cursor.move move).2.Stops wanted := by
  cases move with
  | skipBlanks =>
      obtain rfl := Option.some.inj seeks
      exact ⟨fun _ => wanted_of_mem_takeWhile, cursor.stops_skipBlanks⟩
  | takeWhile run =>
      obtain rfl := Option.some.inj seeks
      exact ⟨fun _ => wanted_of_mem_takeWhile, cursor.stops_takeWhile run⟩
  | peek | peekAt offset | bump | eat expected => exact absurd seeks nofun

/-- What a passage leads over is the part of the text between its two ends. -/
theorem Passes.between? (passes : cursor.Passes text after) (stands : cursor.StandsIn source) :
    Text.between? source cursor.position after.position = some text := by
  have inside : after.position ≤ source.length := (passes.standsIn stands).position
  have onward : after.position = cursor.position + text.length := passes.position
  have written : source.drop cursor.position = text ++ after.ahead :=
    stands.ahead.symm.trans passes.ahead
  rw [Text.between?, if_pos ⟨by omega, inside⟩, List.drop_take, written, onward,
    Nat.add_sub_cancel_left, List.take_left]

theorem StandsIn.peekAt (stands : cursor.StandsIn source) (offset : Nat) :
    cursor.peekAt offset = source[cursor.position + offset]? := by
  rw [Cursor.peekAt, stands.ahead, List.getElem?_drop]

/-- A run of wanted characters goes on behind its first one. -/
theorem takeWhile_of_wanted {next : Char} (found : cursor.peek = some next)
    (begins : wanted next = true) :
    (cursor.takeWhile wanted).2 = (cursor.bump.2.takeWhile wanted).2 := by
  refine Passes.eq_of_stops (cursor.passes_takeWhile wanted)
    ((passes_bump found).trans (cursor.bump.2.passes_takeWhile wanted))
    (fun _ => wanted_of_mem_takeWhile) (cursor.stops_takeWhile wanted) ?_
    (cursor.bump.2.stops_takeWhile wanted)
  intro character member
  rcases List.mem_cons.mp member with rfl | member
  · exact begins
  · exact wanted_of_mem_takeWhile member

/-- Where the next character is refused, a run has ended already. -/
theorem takeWhile_of_refused (stops : cursor.Stops wanted) :
    (cursor.takeWhile wanted).2 = cursor := by
  rw [takeWhile_of_passes (.refl cursor) (by simp) stops]

end Cursor

/-- A text and a place in it. -/
structure Pointer where
  text : List Char
  position : Nat
  deriving DecidableEq

/-- The pointer to the place where a cursor stands in a text. -/
def Cursor.pointer (cursor : Cursor) (text : List Char) : Pointer :=
  ⟨text, cursor.position⟩

namespace Pointer

def peek (pointer : Pointer) : Option Char :=
  pointer.text[pointer.position]?

def peekAt (pointer : Pointer) (offset : Nat) : Option Char :=
  pointer.text[pointer.position + offset]?

/-- The pointer to the next place. -/
def next (pointer : Pointer) : Pointer :=
  { pointer with position := pointer.position + 1 }

/-- Goes on from place to place as long as a wanted character is there. -/
def advance (wanted : Char → Bool) (pointer : Pointer) : Pointer :=
  if pointer.peek.any wanted then advance wanted pointer.next else pointer
termination_by pointer.text.length - pointer.position
decreasing_by
  rename_i sought
  obtain ⟨_, found, _⟩ := (Option.any_eq_true wanted pointer.peek).mp sought
  have inside : pointer.position < pointer.text.length := (List.getElem?_eq_some_iff.mp found).1
  simp only [next]
  omega

def move (pointer : Pointer) : Move → Option (Answer × Pointer)
  | .peek => some (.next pointer.peek, pointer)
  | .peekAt offset => some (.next (pointer.peekAt offset), pointer)
  | .bump =>
      match pointer.peek with
      | some found => some (.next (some found), pointer.next)
      | none => some (.next none, pointer)
  | .eat expected =>
      if pointer.peek = some expected then some (.eaten true, pointer.next)
      else some (.eaten false, pointer)
  | .skipBlanks => some (.nothing, pointer.advance Text.isBlank)
  | .takeWhile wanted => do
      let after := pointer.advance wanted
      let taken ← Text.between? pointer.text pointer.position after.position
      return (.taken taken, after)

variable {cursor : Cursor} {source : List Char}

theorem peek_pointer (stands : cursor.StandsIn source) :
    (cursor.pointer source).peek = cursor.peek :=
  stands.peek.symm

theorem next_pointer {character : Char} (found : cursor.peek = some character) :
    (cursor.pointer source).next = cursor.bump.2.pointer source := by
  rw [Cursor.pointer, Cursor.pointer, (Cursor.passes_bump found).position]
  rfl

/-- Going on place by place ends where the run of wanted characters ends. -/
theorem advance_pointer (stands : cursor.StandsIn source) (wanted : Char → Bool) :
    (cursor.pointer source).advance wanted = (cursor.takeWhile wanted).2.pointer source := by
  generalize start : cursor.pointer source = pointer
  fun_induction advance wanted pointer generalizing cursor with
  | case1 pointer sought ih =>
      subst start
      rw [peek_pointer stands] at sought
      obtain ⟨character, found, begins⟩ := (Option.any_eq_true wanted cursor.peek).mp sought
      -- One place further on, the cursor that the pointer belongs to is the one behind the character.
      have onward : cursor.bump.2.StandsIn source := (Cursor.passes_bump found).standsIn stands
      rw [Cursor.takeWhile_of_wanted found begins]
      exact ih onward (next_pointer found).symm
  | case2 pointer refused =>
      subst start
      have stops : cursor.Stops wanted := by
        intro character found
        simpa [peek_pointer stands, found] using refused
      rw [Cursor.takeWhile_of_refused stops]

/-- In a text, a pointer moves like the cursor at its place.  What it cuts out is there. -/
theorem move_pointer (stands : cursor.StandsIn source) (move : Move) :
    (cursor.pointer source).move move =
      some ((cursor.move move).1, (cursor.move move).2.pointer source) := by
  have same := peek_pointer stands
  cases move with
  | peek => rw [Pointer.move, same, Cursor.move]
  | peekAt offset =>
      rw [Pointer.move, Cursor.move, stands.peekAt offset]
      rfl
  | bump =>
      rw [Pointer.move, same, Cursor.move]
      cases found : cursor.peek with
      | some character =>
          rw [Cursor.bump_of_passes (Cursor.passes_bump found)]
          simp only [next_pointer found]
      | none =>
          have nothing : cursor.ahead = [] := List.head?_eq_none_iff.mp found
          simp [Cursor.bump, nothing]
  | eat expected =>
      rw [Pointer.move, same, Cursor.move]
      by_cases found : cursor.peek = some expected
      · rw [if_pos found, next_pointer found, Cursor.eat_of_passes (Cursor.passes_bump found)]
      · rw [if_neg found, Cursor.eat_of_ne found]
  | skipBlanks =>
      rw [Pointer.move, advance_pointer stands]
      rfl
  | takeWhile wanted =>
      have cut := (cursor.passes_takeWhile wanted).between? stands
      rw [Pointer.move, advance_pointer stands, Cursor.move]
      simp only [Cursor.pointer, cut, Option.bind_eq_bind, Option.bind_some]
      rfl

end Pointer

end LineCalc
