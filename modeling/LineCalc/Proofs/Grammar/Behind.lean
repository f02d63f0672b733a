import LineCalc.Proofs.Grammar.Lockstep

/-!
# Readings behind others

What a rule makes of the text ahead does not depend on what has been read before.  A reading that
starts further on, after something has been done, goes like one that starts afresh: its places are
counted on, and what it asks of the console comes behind what has been asked for.
-/

namespace LineCalc

/-- The same text ahead, with more characters behind. -/
def Cursor.shift (cursor : Cursor) (places : Nat) : Cursor :=
  ⟨places + cursor.position, cursor.ahead⟩

/-- What two readings have done, one after the other. -/
def Effects.append (earlier later : Effects) : Effects :=
  ⟨earlier.events ++ later.events, earlier.draws + later.draws⟩

/-- The noise that is left when some random numbers have been drawn. -/
def Noise.drop (noise : Noise) (draws : Nat) : Noise :=
  fun call => noise (draws + call)

theorem Noise.drop_zero (noise : Noise) : noise.drop 0 = noise := by
  funext call
  rw [drop, Nat.zero_add]

/-- The same error, with more characters before its place. -/
def EvalError.shift (places : Nat) : EvalError → EvalError
  | malformed fault => malformed (fault.relocate (places + fault.position))
  | meaningless fault => meaningless fault

/-- The state as one that comes behind other text and other effects. -/
def State.behind (state : State) (places : Nat) (earlier : Effects) : State :=
  ⟨state.cursor.shift places, earlier.append state.effects⟩

namespace Builtin.Reply

theorem carryOut_append (noise : Noise) (builtin : Builtin) (earlier effects : Effects)
    (reply : Reply) :
    reply.carryOut noise builtin (earlier.append effects) =
      ((reply.carryOut (noise.drop earlier.draws) builtin effects).1,
        earlier.append (reply.carryOut (noise.drop earlier.draws) builtin effects).2) := by
  cases reply with
  | draw => simp [carryOut, Effects.append, Effects.draw, Noise.drop, Nat.add_assoc]
  | number content => rfl
  | request event => simp [carryOut, Effects.append, Effects.record]

end Builtin.Reply

namespace Cursor

variable (cursor : Cursor) (places : Nat)

theorem takeWhile_shift (wanted : Char → Bool) :
    (cursor.shift places).takeWhile wanted =
      ((cursor.takeWhile wanted).1, (cursor.takeWhile wanted).2.shift places) := by
  simp [takeWhile, shift, Nat.add_assoc]

theorem skipBlanks_shift : (cursor.shift places).skipBlanks = cursor.skipBlanks.shift places := by
  rw [skipBlanks, takeWhile_shift, skipBlanks]

theorem bump_shift :
    (cursor.shift places).bump = (cursor.bump.1, cursor.bump.2.shift places) := by
  obtain ⟨position, _ | ⟨next, others⟩⟩ := cursor
  · rfl
  · rfl

theorem eat_shift (expected : Char) :
    (cursor.shift places).eat expected =
      ((cursor.eat expected).1, (cursor.eat expected).2.shift places) := by
  unfold eat
  rw [bump_shift, show (cursor.shift places).peek = cursor.peek from rfl]
  split <;> rfl

end Cursor

theorem SyntaxError.position_relocate (fault : SyntaxError) (place : Nat) :
    (fault.relocate place).position = place := by
  cases fault <;> rfl

theorem SyntaxError.relocate_relocate (fault : SyntaxError) (place other : Nat) :
    (fault.relocate place).relocate other = fault.relocate other := by
  cases fault <;> rfl

namespace Rule

variable {α : Type} {places : Nat} {earlier : Effects}

/-- The second reading ends like the first one, behind other text and other effects. -/
abbrev Ensues (places : Nat) (earlier : Effects) :
    EStateM.Result EvalError State α → EStateM.Result EvalError State α → Prop :=
  Matches (fun here there => there = here.behind places earlier)
    (fun error other => other = error.shift places)

variable {here there : State}

theorem ensues_move {operation : Cursor → α × Cursor}
    (shifts : ∀ cursor : Cursor, operation (cursor.shift places) =
      ((operation cursor).1, (operation cursor).2.shift places)) (state : State) :
    Ensues places earlier (move operation state)
      (move operation (state.behind places earlier)) := by
  simp only [move, State.behind, shifts]
  exact .ok _ rfl

theorem ensues_bump (state : State) :
    Ensues places earlier (bump state) (bump (state.behind places earlier)) :=
  ensues_move (fun cursor => by rw [Cursor.bump_shift]) state

theorem ensues_eat (expected : Char) (state : State) :
    Ensues places earlier (eat expected state) (eat expected (state.behind places earlier)) :=
  ensues_move (fun cursor => cursor.eat_shift places expected) state

theorem ensues_takeWhile (wanted : Char → Bool) (state : State) :
    Ensues places earlier (takeWhile wanted state)
      (takeWhile wanted (state.behind places earlier)) :=
  ensues_move (fun cursor => cursor.takeWhile_shift places wanted) state

theorem ensues_skipBlanks (state : State) :
    Ensues places earlier (skipBlanks state) (skipBlanks (state.behind places earlier)) :=
  ensues_move (fun cursor => by rw [Cursor.skipBlanks_shift]) state

theorem ensues_malformed (fault : SyntaxError) (place : Nat) (state : State) :
    Ensues places earlier (malformed (fault.relocate place) state : EStateM.Result _ _ α)
      (malformed (fault.relocate (places + place)) (state.behind places earlier)) := by
  refine .error ?_ rfl
  rw [EvalError.shift, SyntaxError.position_relocate, SyntaxError.relocate_relocate]

theorem ensues_string (state : State) :
    Ensues places earlier (string state) (string (state.behind places earlier)) := by
  rw [string, position_bind, position_bind]
  refine (ensues_bump state).bind fun _ opened _ _ _ later => later ▸ ?_
  refine (ensues_takeWhile _ opened).bind fun content taken _ _ _ later => later ▸ ?_
  refine (ensues_eat '"' taken).bind fun closed after _ _ _ later => later ▸ ?_
  cases closed with
  | true => exact .ok _ rfl
  | false => exact ensues_malformed (.unterminatedString 0) state.cursor.position after

theorem ensues_fraction (state : State) :
    Ensues places earlier (fraction state) (fraction (state.behind places earlier)) := by
  unfold fraction
  by_cases pointed :
      state.cursor.peek = some '.' ∧ (state.cursor.peekAt 1).any Char.isDigit = true
  · have pointedThere : (state.behind places earlier).cursor.peek = some '.' ∧
        ((state.behind places earlier).cursor.peekAt 1).any Char.isDigit = true := pointed
    rw [if_pos pointed, if_pos pointedThere]
    refine (ensues_bump state).bind fun _ opened _ _ _ later => later ▸ ?_
    exact ensues_takeWhile _ opened
  · have pointedThere : ¬ ((state.behind places earlier).cursor.peek = some '.' ∧
        ((state.behind places earlier).cursor.peekAt 1).any Char.isDigit = true) := pointed
    rw [if_neg pointed, if_neg pointedThere]
    exact .ok _ rfl

theorem ensues_number (state : State) :
    Ensues places earlier (number state) (number (state.behind places earlier)) := by
  refine (ensues_skipBlanks state).bind fun _ start _ _ _ later => later ▸ ?_
  rw [position_bind, position_bind]
  refine (ensues_takeWhile _ start).bind fun whole taken _ _ _ later => later ▸ ?_
  by_cases empty : whole = []
  · rw [if_pos empty, if_pos empty]
    exact ensues_malformed (.expectedNumber 0) start.cursor.position taken
  · rw [if_neg empty, if_neg empty]
    exact (ensues_fraction taken).bind fun _ _ _ _ _ later => .ok _ later

theorem ensues_identifier (state : State) :
    Ensues places earlier (identifier state) (identifier (state.behind places earlier)) := by
  refine (ensues_skipBlanks state).bind fun _ start _ _ _ later => later ▸ ?_
  rw [position_bind, position_bind]
  refine (ensues_takeWhile _ start).bind fun name taken _ _ _ later => later ▸ ?_
  by_cases empty : name = []
  · rw [if_pos empty, if_pos empty]
    exact ensues_malformed (.expectedIdentifier 0) start.cursor.position taken
  · rw [if_neg empty, if_neg empty]
    exact .ok _ rfl

theorem ensues_call (bindings : Bindings) (noise : Noise) (builtin : Builtin)
    (operands : List Operand) (state : State) :
    Ensues places earlier (call ⟨bindings, noise.drop earlier.draws⟩ builtin operands state)
      (call ⟨bindings, noise⟩ builtin operands (state.behind places earlier)) := by
  unfold call
  rw [builtin.call_eq, builtin.call_eq]
  cases replied : builtin.reply operands with
  | error error =>
      obtain ⟨fault, rfl⟩ := builtin.semantic_reply operands error replied
      exact .error rfl rfl
  | ok reply =>
      simp only [map_ok, State.behind, reply.carryOut_append]
      exact .ok _ rfl

/-- Readings of the same text ahead keep step if one comes behind the other. -/
theorem lockstep_behind (bindings : Bindings) (noise : Noise) (places : Nat) (earlier : Effects) :
    Lockstep ⟨bindings, noise.drop earlier.draws⟩ ⟨bindings, noise⟩
      (fun here there => there = here.behind places earlier)
      (fun error other => other = error.shift places) where
  skip := by
    rintro here _ rfl
    rw [State.behind, Cursor.skipBlanks_shift]
    rfl
  peek := by
    rintro here _ rfl
    rw [State.behind, Cursor.skipBlanks_shift]
    rfl
  step := by
    rintro here _ mark rfl _ _ _
    rw [State.behind, Cursor.bump_shift]
    rfl
  string := by
    rintro here _ rfl _ _
    exact ensues_string here
  number := by
    rintro here _ rfl
    exact ensues_number here
  identifier := by
    rintro here _ rfl
    exact ensues_identifier here
  bound := fun _ _ _ _ => rfl
  call := by
    rintro here _ builtin operands rfl
    exact ensues_call bindings noise builtin operands here
  place := by
    rintro here _ error rfl _ _
    rw [EvalError.shift, SyntaxError.position_relocate, SyntaxError.relocate_relocate]
    rfl
  meaning _ := rfl

end Rule

end LineCalc
