import LineCalc.Proofs.Cursor.Move

/-!
# Walks through a text

On its walk through a text, a cursor moves, saves the places where it stands and goes back to places
that it has saved.  It never leaves the text, and pointers take the same walk.  Between two returns
it steps over each character once, in the order of the text.
-/

namespace LineCalc

/-- What is done on a walk. -/
inductive Operation where
  | move (move : Move)
  /-- Saves the place. -/
  | checkpoint
  /-- Goes back to the place before which so many others had been saved. -/
  | restore (earlier : Nat)

/-- A place in a text, and the marks of the places that one can go back to. -/
structure Walk (Place Mark : Type) where
  place : Place
  marks : List Mark
  deriving DecidableEq

/-- How places are left by moves, marked, and found again from other places. -/
structure Walker (Place Mark : Type) where
  move : Place → Move → Option (Answer × Place)
  mark : Place → Mark
  back : Place → Mark → Place

/-- A cursor is marked by itself. -/
def Cursor.walker : Walker Cursor Cursor where
  move cursor move := some (cursor.move move)
  mark cursor := cursor
  back _ saved := saved

/-- A pointer is marked by its position. -/
def Pointer.walker : Walker Pointer Nat where
  move := Pointer.move
  mark := Pointer.position
  back pointer saved := { pointer with position := saved }

namespace Walker

variable {Place Mark : Type}

/-- Performs an operation, unless the move fails or the place to go back to has not been saved. -/
def perform (walker : Walker Place Mark) (walk : Walk Place Mark) :
    Operation → Option (Answer × Walk Place Mark)
  | .move move => do
      let (answer, place) ← walker.move walk.place move
      return (answer, { walk with place })
  | .checkpoint =>
      return (.nothing, { walk with marks := walk.marks ++ [walker.mark walk.place] })
  | .restore earlier => do
      let mark ← walk.marks[earlier]?
      return (.nothing, { walk with place := walker.back walk.place mark })

/-- Performs operations one after another. -/
def run (walker : Walker Place Mark) (walk : Walk Place Mark) :
    List Operation → Option (List Answer × Walk Place Mark)
  | [] => some ([], walk)
  | operation :: others => do
      let (answer, next) ← walker.perform walk operation
      let (answers, last) ← walker.run next others
      return (answer :: answers, last)

variable {walker : Walker Place Mark} {walk next last : Walk Place Mark} {operation : Operation}
variable {operations : List Operation} {answer : Answer} {answers : List Answer}

theorem run_cons (performed : walker.perform walk operation = some (answer, next))
    (ran : walker.run next operations = some (answers, last)) :
    walker.run walk (operation :: operations) = some (answer :: answers, last) := by
  rw [run, performed]
  simp only [Option.bind_eq_bind, Option.bind_some, ran]
  rfl

/-- A walk that begins with an operation goes on behind it. -/
theorem exists_of_run_cons (ran : walker.run walk (operation :: operations) = some (answers, last)) :
    ∃ answer others next, walker.perform walk operation = some (answer, next) ∧
      walker.run next operations = some (others, last) ∧ answers = answer :: others := by
  rw [run] at ran
  obtain ⟨⟨answer, next⟩, performed, ran⟩ := Option.bind_eq_some_iff.mp ran
  obtain ⟨⟨others, reached⟩, onward, same⟩ := Option.bind_eq_some_iff.mp ran
  obtain ⟨rfl, rfl⟩ := Prod.mk.inj (Option.some.inj same)
  exact ⟨answer, others, next, performed, onward, rfl⟩

end Walker

/-- Are all returns to places that have been saved by then, some being saved already? -/
def recalls : Nat → List Operation → Bool
  | _, [] => true
  | saved, .move _ :: operations => recalls saved operations
  | saved, .checkpoint :: operations => recalls (saved + 1) operations
  | saved, .restore earlier :: operations => decide (earlier < saved) && recalls saved operations

namespace Walk

/-- The walk of a cursor as that of a pointer. -/
def pointers (walk : Walk Cursor Cursor) (text : List Char) : Walk Pointer Nat :=
  ⟨walk.place.pointer text, walk.marks.map Cursor.position⟩

/-- The characters that some operations step over. -/
def passed (walk : Walk Cursor Cursor) : List Operation → List Char
  | [] => []
  | .move move :: operations =>
      walk.place.passed move ++ passed ⟨(walk.place.move move).2, walk.marks⟩ operations
  | .checkpoint :: operations => passed ⟨walk.place, walk.marks ++ [walk.place]⟩ operations
  | .restore earlier :: operations =>
      match walk.marks[earlier]? with
      | some mark => passed ⟨mark, walk.marks⟩ operations
      | none => []

/-- The walk has not left the text, nor can it by going back. -/
structure StandsIn (walk : Walk Cursor Cursor) (source : List Char) : Prop where
  place : walk.place.StandsIn source
  marks : ∀ mark ∈ walk.marks, mark.StandsIn source

variable {walk next last : Walk Cursor Cursor} {source : List Char} {operation : Operation}
variable {operations : List Operation} {answer : Answer} {answers : List Answer}

/-- No operation leads out of the text, and a pointer finds the same and comes to the same place. -/
theorem StandsIn.perform (stands : walk.StandsIn source)
    (performed : Cursor.walker.perform walk operation = some (answer, next)) :
    next.StandsIn source ∧
      Pointer.walker.perform (walk.pointers source) operation =
        some (answer, next.pointers source) := by
  cases operation with
  | move move =>
      obtain ⟨rfl, rfl⟩ := Prod.mk.inj (Option.some.inj performed)
      refine ⟨⟨(walk.place.passes_move move).standsIn stands.place, stands.marks⟩, ?_⟩
      have moved := Pointer.move_pointer stands.place move
      simp only [Walker.perform, Pointer.walker, pointers, moved]
      rfl
  | checkpoint =>
      obtain ⟨rfl, rfl⟩ := Prod.mk.inj (Option.some.inj performed)
      refine ⟨⟨stands.place, ?_⟩, ?_⟩
      · intro mark member
        rcases List.mem_append.mp member with member | member
        · exact stands.marks mark member
        · obtain rfl := List.mem_singleton.mp member
          exact stands.place
      · simp [Walker.perform, Pointer.walker, Cursor.walker, pointers, Cursor.pointer]
  | restore earlier =>
      obtain ⟨mark, found, same⟩ := Option.bind_eq_some_iff.mp performed
      obtain ⟨rfl, rfl⟩ := Prod.mk.inj (Option.some.inj same)
      refine ⟨⟨stands.marks mark (List.mem_of_getElem? found), stands.marks⟩, ?_⟩
      simp [Walker.perform, Pointer.walker, Cursor.walker, pointers, Cursor.pointer, found]

/-- No walk leads out of the text, and a pointer can take it as well. -/
theorem StandsIn.run (stands : walk.StandsIn source)
    (ran : Cursor.walker.run walk operations = some (answers, last)) :
    last.StandsIn source ∧
      Pointer.walker.run (walk.pointers source) operations =
        some (answers, last.pointers source) := by
  induction operations generalizing walk answers with
  | nil =>
      obtain ⟨rfl, rfl⟩ := Prod.mk.inj (Option.some.inj ran)
      exact ⟨stands, rfl⟩
  | cons operation operations ih =>
      obtain ⟨answer, others, next, performed, onward, rfl⟩ := Walker.exists_of_run_cons ran
      obtain ⟨inside, samePerformed⟩ := stands.perform performed
      obtain ⟨reached, sameOnward⟩ := ih inside onward
      exact ⟨reached, Walker.run_cons samePerformed sameOnward⟩

/-- An operation that does not go back, or goes back to a saved place, can be performed. -/
theorem exists_perform (recalled : recalls walk.marks.length (operation :: operations) = true) :
    ∃ answer next, Cursor.walker.perform walk operation = some (answer, next) ∧
      recalls next.marks.length operations = true := by
  cases operation with
  | move move => exact ⟨_, _, rfl, recalled⟩
  | checkpoint =>
      refine ⟨_, _, rfl, ?_⟩
      simpa [recalls] using recalled
  | restore earlier =>
      simp only [recalls, Bool.and_eq_true, decide_eq_true_eq] at recalled
      obtain ⟨saved, recalled⟩ := recalled
      have found : walk.marks[earlier]? = some walk.marks[earlier] :=
        List.getElem?_eq_getElem saved
      refine ⟨.nothing, ⟨walk.marks[earlier], walk.marks⟩, ?_, recalled⟩
      rw [Walker.perform, found]
      rfl

/-- A walk that goes back only to saved places can be taken. -/
theorem exists_run (walk : Walk Cursor Cursor)
    (recalled : recalls walk.marks.length operations = true) :
    ∃ answers last, Cursor.walker.run walk operations = some (answers, last) := by
  induction operations generalizing walk with
  | nil => exact ⟨[], walk, rfl⟩
  | cons operation operations ih =>
      obtain ⟨answer, next, performed, onward⟩ := exists_perform recalled
      obtain ⟨answers, last, ran⟩ := ih next onward
      exact ⟨answer :: answers, last, Walker.run_cons performed ran⟩

/-- Without a return, a walk leads over the characters that it steps over. -/
theorem exists_run_onward (walk : Walk Cursor Cursor)
    (onward : ∀ earlier, .restore earlier ∉ operations) :
    ∃ answers last, Cursor.walker.run walk operations = some (answers, last) ∧
      walk.place.Passes (walk.passed operations) last.place := by
  induction operations generalizing walk with
  | nil => exact ⟨[], walk, rfl, .refl walk.place⟩
  | cons operation operations ih =>
      have rest : ∀ earlier, .restore earlier ∉ operations :=
        fun earlier member => onward earlier (List.mem_cons_of_mem operation member)
      cases operation with
      | move move =>
          obtain ⟨answers, last, ran, passes⟩ := ih ⟨(walk.place.move move).2, walk.marks⟩ rest
          exact ⟨_, last, Walker.run_cons rfl ran, (walk.place.passes_move move).trans passes⟩
      | checkpoint =>
          obtain ⟨answers, last, ran, passes⟩ := ih ⟨walk.place, walk.marks ++ [walk.place]⟩ rest
          exact ⟨_, last, Walker.run_cons rfl ran, passes⟩
      | restore earlier => exact absurd List.mem_cons_self (onward earlier)

/-- A walk from the beginning of a text that goes back only to saved places can be taken, and
neither leaves the text nor changes it: a pointer, which cuts what it takes out of the text, is
never refused, finds the same, and comes to the same place.  Up to the next return, the characters
stepped over are the part of the text between the two places.  A move over wanted characters steps
over no other ones, and ends at the end of the text or at a character that it does not want. -/
theorem keeps_to_text (source : String) (operations : List Operation)
    (recalled : recalls 0 operations = true) :
    ∃ (answers : List Answer) (walk : Walk Cursor Cursor),
      Cursor.walker.run ⟨Cursor.ofString source, []⟩ operations = some (answers, walk) ∧
      Pointer.walker.run ⟨⟨source.toList, 0⟩, []⟩ operations =
        some (answers, walk.pointers source.toList) ∧
      walk.StandsIn source.toList ∧
      (∀ onward : List Operation, (∀ earlier, .restore earlier ∉ onward) →
        ∃ (later : List Answer) (reached : Walk Cursor Cursor),
          Cursor.walker.run walk onward = some (later, reached) ∧
          Text.between? source.toList walk.place.position reached.place.position =
            some (walk.passed onward)) ∧
      ∀ move wanted, move.wanted? = some wanted →
        (∀ character ∈ walk.place.passed move, wanted character = true) ∧
          EndOr source.toList (walk.place.move move).2.position fun found =>
            wanted found = false := by
  let start : Walk Cursor Cursor := ⟨Cursor.ofString source, []⟩
  have begins : start.StandsIn source.toList := ⟨⟨Nat.zero_le _, rfl⟩, by simp [start]⟩
  obtain ⟨answers, walk, ran⟩ := exists_run start recalled
  obtain ⟨stands, same⟩ := begins.run ran
  refine ⟨answers, walk, ran, same, stands, ?_, ?_⟩
  · intro onward forward
    obtain ⟨later, reached, ran, passes⟩ := exists_run_onward walk forward
    exact ⟨later, reached, ran, passes.between? stands.place⟩
  · intro move wanted seeks
    obtain ⟨taken, stops⟩ := walk.place.stops_move seeks
    exact ⟨taken, ((walk.place.passes_move move).standsIn stands.place).endOr stops⟩

/-- What has been read behind the digits is read again after going back there. -/
theorem keeps_to_text_back :
    let operations : List Operation :=
      [.move (.takeWhile Char.isDigit), .checkpoint, .move .skipBlanks, .move (.eat '+'),
        .restore 0, .move .bump, .move (.takeWhile (· ≠ '"')), .move .bump]
    recalls 0 operations = true ∧
      Pointer.walker.run ⟨⟨"12 +x".toList, 0⟩, []⟩ operations =
        some ([.taken ['1', '2'], .nothing, .nothing, .eaten true, .nothing, .next (some ' '),
          .taken ['+', 'x'], .next none], ⟨⟨"12 +x".toList, 5⟩, [2]⟩) := by
  intro operations
  have recalled : recalls 0 operations = true := rfl
  obtain ⟨answers, walk, ran, same, _⟩ := keeps_to_text "12 +x" operations recalled
  have taken : Cursor.walker.run ⟨Cursor.ofString "12 +x", []⟩ operations =
      some ([.taken ['1', '2'], .nothing, .nothing, .eaten true, .nothing, .next (some ' '),
        .taken ['+', 'x'], .next none], ⟨⟨5, []⟩, [⟨2, [' ', '+', 'x']⟩]⟩) := by
    decide
  obtain ⟨rfl, rfl⟩ := Prod.mk.inj (Option.some.inj (ran.symm.trans taken))
  exact ⟨recalled, same⟩

end Walk

end LineCalc
