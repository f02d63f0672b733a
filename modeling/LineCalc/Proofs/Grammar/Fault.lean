import LineCalc.Proofs.Grammar.Attempt
import LineCalc.Proofs.Grammar.Progress

/-!
# Faults

A malformed line is blamed on a place in it, and what stands there bears this out: a quote behind
which there is no other, or something that cannot come next.  What stands before a character that is
not expected is a line by itself.
-/

namespace LineCalc

/-- The place is the end of the text, or the character there has the property. -/
def EndOr (source : List Char) (place : Nat) (Holds : Char → Prop) : Prop :=
  place = source.length ∨ ∃ found, source[place]? = some found ∧ Holds found

namespace SyntaxError

/-- The faults of phrases, and what the text has at their places. -/
def InPhrase (source : List Char) : SyntaxError → Prop
  | unterminatedString place => source[place]? = some '"' ∧ '"' ∉ source.drop (place + 1)
  | expectedClosingParen place =>
      EndOr source place fun found =>
        Text.isBlank found = false ∧ found ∉ [')', '+', '-', '*', '/', '%']
  | expectedNumber place =>
      EndOr source place fun found =>
        Text.isBlank found = false ∧ found.isDigit = false ∧ isNameChar found = false ∧
          found ∉ ['"', '+', '-', '(']
  | expectedIdentifier _ => False
  | unexpectedCharacter _ _ => False

/-- The faults of lines: those of phrases, and something visible behind a statement. -/
def InLine (source : List Char) : SyntaxError → Prop
  | unexpectedCharacter found place =>
      source[place]? = some found ∧ Text.isBlank found = false
  | fault => fault.InPhrase source

variable {source : List Char} {fault : SyntaxError}

theorem InPhrase.inLine (inPhrase : fault.InPhrase source) : fault.InLine source := by
  cases fault with
  | unexpectedCharacter found place => exact inPhrase.elim
  | _ => exact inPhrase

/-- The place of a fault is in the text or at its end. -/
theorem InLine.position_le (inLine : fault.InLine source) : fault.position ≤ source.length := by
  have inside {place : Nat} {found : Char} (there : source[place]? = some found) :
      place ≤ source.length :=
    Nat.le_of_lt (List.getElem?_eq_some_iff.mp there).1
  have reached {place : Nat} {Holds : Char → Prop} (there : EndOr source place Holds) :
      place ≤ source.length := by
    rcases there with last | ⟨found, there, _⟩
    · exact Nat.le_of_eq last
    · exact inside there
  cases fault with
  | unterminatedString place => exact inside inLine.1
  | expectedClosingParen place => exact reached inLine
  | expectedNumber place => exact reached inLine
  | expectedIdentifier place => exact inLine.elim
  | unexpectedCharacter found place => exact inside inLine.1

end SyntaxError

namespace Cursor

variable {cursor : Cursor} {source : List Char}

theorem StandsIn.peek (stands : cursor.StandsIn source) :
    cursor.peek = source[cursor.position]? := by
  rw [Cursor.peek, stands.ahead, List.head?_drop]

theorem StandsIn.endOr {Holds : Char → Prop} (stands : cursor.StandsIn source)
    (holds : ∀ found, cursor.peek = some found → Holds found) :
    EndOr source cursor.position Holds := by
  cases next : cursor.peek with
  | some found => exact .inr ⟨found, stands.peek ▸ next, holds found next⟩
  | none =>
      have beyond : source.length ≤ cursor.position :=
        List.getElem?_eq_none_iff.mp (stands.peek.symm.trans next)
      exact .inl (Nat.le_antisymm stands.position beyond)

theorem StandsIn.skipBlanks (stands : cursor.StandsIn source) :
    cursor.skipBlanks.StandsIn source :=
  let ⟨_, _, passes⟩ := cursor.exists_passes_skipBlanks
  passes.standsIn stands

/-- Tokens at the beginning of a line, and blanks behind them, are a line by themselves. -/
theorem Spells.isLine_take {line : String} {tokens : List Token} {reached after : Cursor}
    (spells : (ofString line).Spells tokens reached) (slides : reached.Slides after) :
    IsLine (String.ofList (line.toList.take after.position)) tokens := by
  obtain ⟨text, spelled, passes⟩ := spells
  obtain ⟨blanks, blank, slid⟩ := slides
  have whole : (ofString line).Passes (text ++ blanks) after := passes.trans slid
  have written : line.toList = (text ++ blanks) ++ after.ahead := whole.ahead
  have reached : after.position = (text ++ blanks).length := by
    simpa [ofString] using whole.position
  refine ⟨text, blanks, ?_, spelled, blank⟩
  rw [String.toList_ofList, written, reached, List.take_left]

/-- An expression does not go on: neither a blank nor an operator is next. -/
def Rests (cursor : Cursor) : Prop :=
  ∀ found, cursor.peek = some found →
    Text.isBlank found = false ∧ found ∉ ['+', '-', '*', '/', '%']

theorem Rests.stops (rests : cursor.Rests) : cursor.Stops Text.isBlank :=
  fun found next => (rests found next).1

theorem rests_of_none (stops : cursor.Stops Text.isBlank)
    (noFactor : cursor.peek.bind Operator.multiplicative? = none)
    (noTerm : cursor.peek.bind Operator.additive? = none) : cursor.Rests := by
  intro found next
  rw [next, Option.bind_some] at noFactor noTerm
  refine ⟨stops found next, ?_⟩
  have operators : ∀ symbol ∈ ['+', '-', '*', '/', '%'],
      Operator.multiplicative? symbol ≠ none ∨ Operator.additive? symbol ≠ none :=
    forall_mem_of_all (by decide)
  intro member
  rcases operators found member with known | known
  · exact known noFactor
  · exact known noTerm

end Cursor

namespace Rule

variable {α β : Type} {scope : Scope} {source : List Char} {bound : Nat} {before after : State}

/-! ## Places in a text -/

/-- The state stands in the text and has no more ahead than the bound. -/
structure Within (source : List Char) (bound : Nat) (state : State) : Prop where
  stands : state.cursor.StandsIn source
  fits : state.cursor.ahead.length ≤ bound

namespace Within

theorem mono {larger : Nat} (within : Within source bound before) (le : bound ≤ larger) :
    Within source larger before :=
  ⟨within.stands, Nat.le_trans within.fits le⟩

theorem onward {rule : Rule α} {result : α} (within : Within source bound before)
    (onward : Onward rule) (read : rule before = .ok result after) : Within source bound after := by
  obtain ⟨text, passes⟩ := onward before
  rw [read] at passes
  have passed : before.cursor.ahead.length = text.length + after.cursor.ahead.length :=
    passes.length
  have fits := within.fits
  exact ⟨passes.standsIn within.stands, by omega⟩

theorem advances {rule : Rule α} {result : α} (within : Within source (bound + 1) before)
    (advances : Advances rule) (read : rule before = .ok result after) :
    Within source bound after := by
  have fewer := advances.shortens before result after read
  have fits := within.fits
  exact ⟨(within.onward advances.onward read).stands, by omega⟩

theorem skipBlanks (within : Within source bound before) (effects : Effects) :
    Within source bound ⟨before.cursor.skipBlanks, effects⟩ :=
  have skipped := (Cursor.Slides.skipBlanks before.cursor).length_le
  ⟨within.stands.skipBlanks, Nat.le_trans skipped within.fits⟩

theorem bump {character : Char} (within : Within source (bound + 1) before)
    (found : before.cursor.skipBlanks.peek = some character) (effects : Effects) :
    Within source bound ⟨before.cursor.skipBlanks.bump.2, effects⟩ := by
  have shorter := Cursor.length_bump_lt found
  have fits := within.fits
  exact ⟨(Cursor.passes_bump found).standsIn within.stands.skipBlanks, by simp only; omega⟩

end Within

/-! ## Right blame -/

/-- If the rule finds the text malformed, what it says about it is true. -/
def Blames (source : List Char) (rule : Rule α) (before : State) : Prop :=
  ∀ fault after, rule before = .error (.malformed fault) after → fault.InPhrase source

/-- Where a bound is needed: the rule is right about every place from which it covers the text. -/
def BlamesWithin (source : List Char) (bound : Nat) (rule : Rule α) : Prop :=
  ∀ before, Within source bound before → Blames source rule before

theorem blames_pure (result : α) (before : State) : Blames source (pure result) before :=
  nofun

theorem blames_malformed {fault : SyntaxError} (inPhrase : fault.InPhrase source)
    (before : State) : Blames source (malformed fault : Rule α) before := by
  intro other after failed
  rw [← EvalError.malformed.inj (EStateM.Result.error.inj failed).1]
  exact inPhrase

theorem blames_asValue (operand : Operand) (before : State) :
    Blames source (asValue operand) before := by
  cases operand <;> exact nofun

theorem blames_named (name : String) (before : State) :
    Blames source (named scope name) before := by
  unfold named
  split <;> exact nofun

theorem blames_call (builtin : Builtin) (operands : List Operand) (before : State) :
    Blames source (call scope builtin operands) before := by
  intro fault after failed
  unfold call at failed
  split at failed
  · exact absurd failed nofun
  · next error outcome =>
    obtain ⟨rfl, _⟩ := EStateM.Result.error.inj failed
    obtain ⟨meaning, same⟩ := builtin.semantic_call scope.noise operands before.effects _ outcome
    exact absurd same nofun

theorem Blames.of_eq {rule other : Rule α} (blames : Blames source other after)
    (same : rule before = other after) : Blames source rule before := by
  unfold Blames
  rwa [same]

theorem Blames.bind {first : Rule α} {next : α → Rule β} (blames : Blames source first before)
    (rest : ∀ result after, first before = .ok result after →
      Blames source (next result) after) : Blames source (first >>= next) before := by
  intro fault after failed
  cases outcome : first before with
  | error error stopped =>
      rw [bind_of_error outcome] at failed
      obtain ⟨rfl, rfl⟩ := EStateM.Result.error.inj failed
      exact blames fault _ outcome
  | ok result middle =>
      rw [bind_of_ok outcome] at failed
      exact rest result middle outcome fault after failed

theorem Blames.bind_pure {first : Rule α} (blames : Blames source first before)
    (function : α → β) : Blames source (do return function (← first)) before :=
  blames.bind fun _ after _ => blames_pure _ after

/-- The error of a first attempt is forgotten. -/
theorem Blames.orElse {second : Rule α} (blames : Blames source second before)
    (first : Rule (Option α)) : Blames source (orElse first second) before := by
  intro fault after failed
  unfold Rule.orElse at failed
  split at failed
  · exact absurd failed nofun
  · exact blames fault after failed

/-! ## Single tokens -/

theorem blames_string (stands : before.cursor.StandsIn source)
    (opening : before.cursor.peek = some '"') : Blames source string before := by
  intro fault after failed
  rw [string, position_bind] at failed
  obtain ⟨inside, opens, stepped⟩ := bump_bind opening _
  rw [stepped] at failed
  obtain ⟨content, behind, body, all, stops, stepped⟩ := takeWhile_bind _ _ _
  rw [stepped] at failed
  rcases eat_bind '"' _ _ with ⟨last, closes, stepped⟩ | ⟨unclosed, stepped⟩
  · rw [stepped] at failed
    exact absurd failed not_pure_eq_error
  · rw [stepped] at failed
    have nothing : behind.ahead = [] := by
      cases next : behind.peek with
      | none => exact List.head?_eq_none_iff.mp next
      | some found =>
          have quote : found = '"' := by simpa using stops found next
          exact absurd (quote ▸ next) unclosed
    -- The content is all that follows the quote.
    have rest : source.drop (before.cursor.position + 1) = content := by
      have written : inside.ahead = content ++ behind.ahead := body.ahead
      rw [nothing, List.append_nil, (opens.standsIn stands).ahead, opens.position] at written
      exact written
    have unquoted : '"' ∉ source.drop (before.cursor.position + 1) := by
      rw [rest]
      exact fun member => by simpa using all _ member
    have unterminated : (SyntaxError.unterminatedString before.cursor.position).InPhrase source :=
      ⟨stands.peek ▸ opening, unquoted⟩
    exact blames_malformed unterminated _ fault after failed

theorem blames_identifier (letter : before.cursor.skipBlanks.peek.any isNameChar = true) :
    Blames source identifier before := by
  intro fault after failed
  rw [identifier, skipBlanks_bind, position_bind] at failed
  obtain ⟨name, behind, passes, _, stops, stepped⟩ := takeWhile_bind _ _ _
  rw [stepped] at failed
  have nonempty : name ≠ [] := by
    rintro rfl
    obtain ⟨first, next, wanted⟩ := (Option.any_eq_true _ _).mp letter
    have refused : isNameChar first = false := stops first (passes.eq_of_nil ▸ next)
    exact absurd wanted (by simp [refused])
  rw [if_neg nonempty] at failed
  exact absurd failed not_pure_eq_error

theorem exists_fraction_eq_ok (state : State) :
    ∃ places after, fraction state = .ok places after := by
  unfold fraction
  split
  · exact ⟨_, _, rfl⟩
  · exact ⟨_, _, rfl⟩

theorem blames_number (stands : before.cursor.StandsIn source)
    (other : ∀ found, before.cursor.skipBlanks.peek = some found →
      isNameChar found = false ∧ found ∉ Procedure.factorMarks) : Blames source number before := by
  intro fault after failed
  have here := stands.skipBlanks
  have visible := before.cursor.stops_skipBlanks
  rw [number, skipBlanks_bind, position_bind] at failed
  obtain ⟨whole, behind, passes, _, stops, stepped⟩ := takeWhile_bind _ _ _
  rw [stepped] at failed
  by_cases empty : whole = []
  · subst empty
    rw [if_pos rfl] at failed
    rw [← passes.eq_of_nil] at stops
    have missing : (SyntaxError.expectedNumber before.cursor.skipBlanks.position).InPhrase source :=
      here.endOr fun found next =>
        ⟨visible found next, stops found next, other found next⟩
    exact blames_malformed missing _ fault after failed
  · rw [if_neg empty] at failed
    obtain ⟨places, middle, read⟩ := exists_fraction_eq_ok ⟨behind, before.effects⟩
    rw [bind_of_ok read] at failed
    exact absurd failed not_pure_eq_error

theorem blames_closingParen (stands : before.cursor.StandsIn source)
    (rests : before.cursor.Rests) : Blames source closingParen before := by
  intro fault after failed
  rw [closingParen, position_bind] at failed
  rcases eat_bind ')' _ before with ⟨last, closes, stepped⟩ | ⟨unclosed, stepped⟩
  · rw [stepped] at failed
    exact absurd failed not_pure_eq_error
  · rw [stepped] at failed
    have missing : (SyntaxError.expectedClosingParen before.cursor.position).InPhrase source := by
      refine stands.endOr fun found next => ?_
      obtain ⟨visible, other⟩ := rests found next
      have notClosing : found ≠ ')' := fun closing => unclosed (closing ▸ next)
      exact ⟨visible, List.not_mem_cons_of_ne_of_not_mem notClosing other⟩
    exact blames_malformed missing _ fault after failed

/-! ## Where chains end -/

section Ends

variable {operator? : Char → Option Operator} {operand factor content : Rule Operand}
variable {left result : Operand}

/-- A chain ends behind its last operand, where no operator of it follows. -/
theorem chainFrom_ends {Reached : Cursor → Prop} (shortens : Shortens operand)
    (leads : LeadsTo Reached bound operand) {loops : Nat} (within : loops ≤ bound)
    (fits : before.cursor.ahead.length ≤ loops) (reached : Reached before.cursor)
    (read : chainFrom operator? operand loops left before = .ok result after) :
    ∃ last, Reached last ∧ after.cursor = last.skipBlanks ∧
      after.cursor.peek.bind operator? = none := by
  have ended {loops : Nat} {before : State} {left : Operand}
      (fits : before.cursor.ahead.length ≤ loops) (reached : Reached before.cursor)
      (ends : before.cursor.skipBlanks.peek.bind operator? = none)
      (read : chainFrom operator? operand loops left before = .ok result after) :
      ∃ last, Reached last ∧ after.cursor = last.skipBlanks ∧
        after.cursor.peek.bind operator? = none := by
    rw [chainFrom_of_none fits ends] at read
    obtain ⟨_, rfl⟩ := EStateM.Result.ok.inj read
    exact ⟨before.cursor, reached, rfl, ends⟩
  induction loops generalizing left before with
  | zero =>
      have nothing := Cursor.peek_skipBlanks_of_length (Nat.le_zero.mp fits)
      exact ended fits reached (by rw [nothing, Option.bind_none]) read
  | succ loops ih =>
      cases next : before.cursor.skipBlanks.peek.bind operator? with
      | none => exact ended fits reached next read
      | some operator =>
          obtain ⟨symbol, found, known⟩ := Option.bind_eq_some_iff.mp next
          have shorter := Cursor.length_bump_lt found
          rw [chainFrom_of_some found known] at read
          obtain ⟨right, middle, taken, read⟩ := bind_eq_ok read
          obtain ⟨_, _, checked, read⟩ := bind_eq_ok read
          obtain ⟨_, rfl⟩ := asValue_eq_ok checked
          obtain ⟨_, _, checked, read⟩ := bind_eq_ok read
          obtain ⟨_, rfl⟩ := asValue_eq_ok checked
          have fewer := shortens _ _ _ taken
          simp only at fewer
          have behind : Reached middle.cursor :=
            leads _ right middle (by simp only; omega) taken
          exact ih (by omega) (by omega) behind read

/-- No operator of a term follows it, and no blank. -/
theorem termOf_ends (shortens : Shortens factor) :
    LeadsTo (fun cursor => cursor.Stops Text.isBlank ∧
      cursor.peek.bind Operator.multiplicative? = none) bound (termOf factor bound) := by
  intro before result after fits read
  have anywhere : LeadsTo (fun _ => True) bound factor := fun _ _ _ _ _ => trivial
  obtain ⟨first, middle, taken, read⟩ := bind_eq_ok read
  have fewer := shortens _ _ _ taken
  obtain ⟨last, -, same, ends⟩ :=
    chainFrom_ends shortens anywhere (Nat.le_refl bound) (by omega) trivial read
  exact ⟨same ▸ last.stops_skipBlanks, ends⟩

theorem expressionOf_rests (sound : Sound scope .factor factor) :
    LeadsTo Cursor.Rests bound (expressionOf factor bound) := by
  intro before result after fits read
  have shortens : Shortens (termOf factor bound) := (termOf_sound sound).shortens (by simp)
  have leads := @termOf_ends bound factor (sound.shortens (by simp))
  obtain ⟨first, middle, taken, read⟩ := bind_eq_ok read
  have fewer := shortens _ _ _ taken
  have reached := leads before first middle fits taken
  obtain ⟨last, ⟨stops, noFactor⟩, same, noTerm⟩ :=
    chainFrom_ends shortens leads (Nat.le_refl bound) (by omega) reached read
  rw [Cursor.skipBlanks_of_stops stops] at same
  exact Cursor.rests_of_none (same ▸ stops) (same ▸ noFactor) noTerm

/-- Behind a list of arguments, its last expression does not go on. -/
theorem argumentsFrom_rests (shortens : Shortens content)
    (rests : LeadsTo Cursor.Rests bound content) :
    LeadsTo Cursor.Rests bound (argumentsFrom content bound) := by
  intro before operands after fits read
  obtain ⟨last, ended, same⟩ :=
    argumentsFrom_ends shortens rests (Nat.le_refl bound) fits read
  rw [same, Cursor.skipBlanks_of_stops ended.stops]
  exact ended

end Ends

/-! ## Phrases -/

section Phrases

variable {operator? : Char → Option Operator} {operand factor content : Rule Operand}

theorem blames_chainFrom (blames : BlamesWithin source bound operand) (advances : Advances operand)
    {loops : Nat} (few : loops ≤ bound) (left : Operand) :
    BlamesWithin source loops (chainFrom operator? operand loops left) := by
  induction loops generalizing left with
  | zero => exact fun before _ => blames_pure left before
  | succ loops ih =>
      intro before within
      cases next : before.cursor.skipBlanks.peek.bind operator? with
      | none => exact (blames_pure left _).of_eq (chainFrom_of_none within.fits next)
      | some operator =>
          obtain ⟨symbol, found, known⟩ := Option.bind_eq_some_iff.mp next
          have start := within.bump found before.effects
          refine Blames.of_eq ?_ (chainFrom_of_some found known)
          refine (blames _ (start.mono (by omega))).bind fun right reached read => ?_
          have behind := start.onward advances.onward read
          refine (blames_asValue left reached).bind fun leftValue _ checked => ?_
          obtain ⟨_, rfl⟩ := asValue_eq_ok checked
          refine (blames_asValue right _).bind fun rightValue _ checked => ?_
          obtain ⟨_, rfl⟩ := asValue_eq_ok checked
          exact ih (by omega) _ _ behind

theorem blames_chain (blames : BlamesWithin source bound operand) (advances : Advances operand) :
    BlamesWithin source bound (chain operator? operand bound) :=
  fun before within => (blames before within).bind fun left _ read =>
    blames_chainFrom blames advances (Nat.le_refl bound) left _
      (within.onward advances.onward read)

theorem blames_expressionOf (blames : BlamesWithin source bound factor) (onward : Onward factor)
    (sound : Sound scope .factor factor) :
    BlamesWithin source bound (expressionOf factor bound) :=
  blames_chain (blames_chain blames ⟨onward, sound.shortens (by simp)⟩)
    (advances_termOf onward sound)

theorem blames_argumentsFrom (blames : BlamesWithin source bound content)
    (advances : Advances content) {loops : Nat} (few : loops ≤ bound) :
    BlamesWithin source loops (argumentsFrom content loops) := by
  induction loops with
  | zero =>
      intro before within
      exact (blames before (within.mono few)).bind_pure _
  | succ loops ih =>
      intro before within
      refine (blames before (within.mono few)).bind fun operand middle read => ?_
      have behind := within.advances advances read
      refine Blames.of_eq ?_ (skipBlanks_bind _ middle)
      refine Blames.bind nofun fun comma start ate => ?_
      cases comma with
      | false => exact blames_pure _ start
      | true =>
          have inside := (behind.skipBlanks middle.effects).onward (onward_eat ',') ate
          exact (ih (by omega) start inside).bind_pure _

theorem blames_arguments (blames : BlamesWithin source bound content)
    (advances : Advances content)
    (rests : ∀ before operand after, before.cursor.ahead.length ≤ bound →
      content before = .ok operand after → after.cursor.Rests) :
    BlamesWithin source bound (arguments content bound) := by
  intro before within
  have cleared := within.skipBlanks before.effects
  refine Blames.of_eq ?_ ((skipBlanks_bind _ before).trans (peek_bind _ _))
  by_cases closes : before.cursor.skipBlanks.peek = some ')'
  · rw [if_pos closes]
    have closed : closingParen ⟨before.cursor.skipBlanks, before.effects⟩ = .ok () _ :=
      computes_closingParen (Cursor.passes_bump closes) before.effects
    exact (blames_pure [] _).of_eq (bind_of_ok closed _)
  · rw [if_neg closes]
    refine (blames_argumentsFrom blames advances (Nat.le_refl bound) _ cleared).bind
      fun operands after read => ?_
    have onward := onward_argumentsFrom advances.onward bound
    have ended := argumentsFrom_rests advances.shortens rests _ _ _ cleared.fits read
    exact (blames_closingParen (cleared.onward onward read).stands ended).bind_pure _

theorem blames_nameOrCall (blames : BlamesWithin source bound content)
    (advances : Advances content) (rests : LeadsTo Cursor.Rests bound content)
    (within : Within source (bound + 1) before)
    (letter : before.cursor.skipBlanks.peek.any isNameChar = true) :
    Blames source (nameOrCall scope content bound) before := by
  refine (blames_identifier letter).bind fun name behind read => ?_
  have afterName := within.advances ⟨onward_identifier, shortens_identifier⟩ read
  refine Blames.of_eq ?_ (skipBlanks_bind _ behind)
  refine Blames.bind nofun fun opens start ate => ?_
  cases opens with
  | false => exact blames_named name start
  | true =>
      have inside := (afterName.skipBlanks behind.effects).onward (onward_eat '(') ate
      refine (blames_arguments blames advances rests start inside).bind fun operands last _ => ?_
      cases Builtin.lookup? name with
      | none => exact nofun
      | some builtin => exact blames_call builtin operands last

/-- A number is all that can be missed where nothing that begins a factor is next. -/
theorem blames_missing (stands : before.cursor.StandsIn source)
    (other : ∀ found, before.cursor.skipBlanks.peek = some found →
      isNameChar found = false ∧ found ∉ Procedure.factorMarks) :
    Blames source (do return .value (.number (← number)) : Rule Operand) before :=
  (blames_number stands other).bind_pure _

theorem blames_factorWithin_of_marked {mark : Char}
    (blames : BlamesWithin source bound (factorWithin scope bound))
    (within : Within source (bound + 1) before) (known : mark ∈ Procedure.factorMarks)
    (found : before.cursor.skipBlanks.peek = some mark) :
    Blames source (factorWithin scope (bound + 1)) before := by
  have start := within.bump found before.effects
  unfold Blames
  rw [factorWithin, skipBlanks_bind, peek_bind, found]
  simp only [Procedure.factorMarks, List.mem_cons, List.not_mem_nil, or_false] at known
  obtain rfl | rfl | rfl | rfl := known
  · exact (blames_string (within.skipBlanks before.effects).stands found).bind_pure _
  · exact blames _ start
  · exact (blames _ start).bind fun operand after _ => (blames_asValue operand after).bind_pure _
  · have sound := factorWithin_sound scope bound
    have onward := onward_factorWithin scope bound
    refine (blames_expressionOf blames onward sound _ start).bind fun operand after read => ?_
    have ended := expressionOf_rests sound _ _ _ start.fits read
    have behind := start.onward (onward_expressionOf onward bound) read
    refine Blames.of_eq ?_ (skipBlanks_bind _ after)
    rw [Cursor.skipBlanks_of_stops ended.stops]
    exact (blames_closingParen behind.stands ended).bind_pure _

theorem blames_factorWithin_of_unmarked
    (blames : BlamesWithin source bound (factorWithin scope bound))
    (within : Within source (bound + 1) before)
    (unmarked : ∀ mark ∈ Procedure.factorMarks, before.cursor.skipBlanks.peek ≠ some mark) :
    Blames source (factorWithin scope (bound + 1)) before := by
  have sound := factorWithin_sound scope bound
  have onward := onward_factorWithin scope bound
  have cleared := within.skipBlanks before.effects
  by_cases letter : before.cursor.skipBlanks.peek.any isNameChar = true
  · refine Blames.of_eq ?_ ((Procedure.factorWithin_of_unmarked unmarked).1 letter)
    have inside : BlamesWithin source bound (expressionOf (factorWithin scope bound) bound) :=
      blames_expressionOf blames onward sound
    exact blames_nameOrCall inside (advances_expressionOf onward sound) (expressionOf_rests sound)
      cleared (by simpa using letter)
  · refine Blames.of_eq ?_ ((Procedure.factorWithin_of_unmarked unmarked).2 letter)
    refine blames_missing cleared.stands fun found next => ?_
    rw [Cursor.skipBlanks_skipBlanks] at next
    exact ⟨by simpa [next] using letter, fun member => unmarked found member next⟩

/-- Under every bound, a factor is right about what it finds malformed. -/
theorem blames_factorWithin (scope : Scope) (bound : Nat) :
    BlamesWithin source bound (factorWithin scope bound) := by
  induction bound with
  | zero =>
      intro before within
      have nothing := Cursor.peek_skipBlanks_of_length (Nat.le_zero.mp within.fits)
      exact blames_missing within.stands fun found next => absurd (nothing.symm.trans next) nofun
  | succ bound ih =>
      intro before within
      by_cases marked : ∃ mark ∈ Procedure.factorMarks, before.cursor.skipBlanks.peek = some mark
      · obtain ⟨mark, known, found⟩ := marked
        exact blames_factorWithin_of_marked ih within known found
      · exact blames_factorWithin_of_unmarked ih within
          fun mark known found => marked ⟨mark, known, found⟩

theorem blames_expression (stands : before.cursor.StandsIn source) :
    Blames source (expression scope) before :=
  blames_expressionOf (blames_factorWithin scope _) (onward_factorWithin scope _)
    (factorWithin_sound scope _) before ⟨stands, Nat.le_refl _⟩

end Phrases

/-! ## Lines -/

theorem blames_statement (stands : before.cursor.StandsIn source) :
    Blames source (statement scope) before := by
  have reading : Blames source (expression scope) ⟨before.cursor.skipBlanks, before.effects⟩ :=
    blames_expression stands.skipBlanks
  refine Blames.of_eq ?_ (skipBlanks_bind _ before)
  exact (reading.bind_pure _).orElse _

theorem lineEnd_eq_error {error : EvalError} (failed : lineEnd before = .error error after) :
    ∃ found, before.cursor.skipBlanks.peek = some found ∧
      error = .malformed (.unexpectedCharacter found before.cursor.skipBlanks.position) := by
  cases next : before.cursor.skipBlanks.peek with
  | none =>
      rw [lineEnd, skipBlanks_bind, peek_bind, next] at failed
      exact absurd failed not_pure_eq_error
  | some found =>
      obtain ⟨stopped, unexpected⟩ := lineEnd_of_peek before next
      obtain ⟨rfl, _⟩ := EStateM.Result.error.inj (unexpected.symm.trans failed)
      exact ⟨found, rfl, rfl⟩

/-- A line is malformed because a phrase of it is, or because something follows its statement. -/
theorem line_malformed {line : String} {fault : SyntaxError}
    (failed : (Rule.line scope).outcome line = .error (.malformed fault)) :
    fault.InPhrase line.toList ∨
      ∃ result middle found, statement scope (State.start line) = .ok result middle ∧
        middle.cursor.skipBlanks.peek = some found ∧
        fault = .unexpectedCharacter found middle.cursor.skipBlanks.position := by
  have stands : (State.start line).cursor.StandsIn line.toList := ⟨Nat.zero_le _, rfl⟩
  obtain ⟨stopped, ran⟩ := outcome_eq_error failed
  cases stated : statement scope (State.start line) with
  | error error middle =>
      rw [Rule.line, bind_of_error stated] at ran
      obtain ⟨rfl, _⟩ := EStateM.Result.error.inj ran
      exact .inl (blames_statement stands fault middle stated)
  | ok result middle =>
      rw [Rule.line, bind_of_ok stated] at ran
      cases ended : lineEnd middle with
      | ok _ last =>
          rw [bind_of_ok ended] at ran
          exact absurd ran not_pure_eq_error
      | error error last =>
          rw [bind_of_error ended] at ran
          obtain ⟨rfl, _⟩ := EStateM.Result.error.inj ran
          obtain ⟨found, next, same⟩ := lineEnd_eq_error ended
          exact .inr ⟨result, middle, found, rfl, next, EvalError.malformed.inj same⟩

theorem inLine_of_outcome {line : String} {fault : SyntaxError}
    (failed : (Rule.line scope).outcome line = .error (.malformed fault)) :
    fault.InLine line.toList := by
  rcases line_malformed failed with inPhrase | ⟨result, middle, found, stated, next, rfl⟩
  · exact inPhrase.inLine
  · have start : (State.start line).cursor.StandsIn line.toList := ⟨Nat.zero_le _, rfl⟩
    obtain ⟨text, passes⟩ := (advances_statement scope).onward (State.start line)
    rw [stated] at passes
    have stands : middle.cursor.skipBlanks.StandsIn line.toList :=
      (passes.standsIn start).skipBlanks
    exact ⟨stands.peek ▸ next, middle.cursor.stops_skipBlanks found next⟩

/-! ## What stands before a fault -/

/-- What a statement has read, with the blanks that follow, is a line that tells the same. -/
theorem tells_of_statement {line : String} {result : Statement}
    (read : statement scope (State.start line) = .ok result after) :
    Tells scope (String.ofList (line.toList.take after.cursor.skipBlanks.position)) result
      after.effects := by
  have cleared := Cursor.Slides.skipBlanks (Cursor.ofString line)
  have behind := Cursor.Slides.skipBlanks after.cursor
  rcases statement_eq_ok read with assigns | ⟨operand, taken, rfl⟩
  · obtain ⟨letters, tree, value, reached, spells, slides, meaning, rfl⟩ :=
      assignment_eq_ok assigns
    have begun : (Cursor.ofString line).Spells (.name letters :: .symbol '=' :: tree.tokens)
      reached := .behind cleared spells
    exact .assignment letters tree (begun.isLine_take (slides.trans behind)) meaning
  · have derived : Derived scope .expression (State.start line) operand after :=
      (expression_sound scope _ operand after taken).behind (by simp)
    obtain ⟨tree, reached, spells, slides, meaning⟩ := derived
    exact .expression tree (spells.isLine_take (slides.trans behind)) meaning

/-- What stands before a character that is not expected is a line by itself.  It is read as the
statement that was found before the character, with the same effects. -/
theorem outcome_before_unexpected {line : String} {found : Char} {place : Nat}
    (failed : (Rule.line scope).outcome line =
      .error (.malformed (.unexpectedCharacter found place))) :
    ∃ result after, statement scope (State.start line) = .ok result after ∧
      (Rule.line scope).outcome (String.ofList (line.toList.take place)) =
        .ok (result, after.effects) := by
  rcases line_malformed failed with inPhrase | ⟨result, middle, other, stated, _, same⟩
  · exact inPhrase.elim
  · obtain ⟨rfl, rfl⟩ := SyntaxError.unexpectedCharacter.inj same
    exact ⟨result, middle, stated, outcome_eq_ok_iff.mpr (tells_of_statement stated)⟩

/-- An assignment of what is no value is read up to its name, which is a line. -/
theorem outcome_before_equals :
    let scope : Scope := ⟨Bindings.empty, fun _ => .nan⟩
    (Rule.line scope).outcome "max = print(2)" =
        .error (.malformed (.unexpectedCharacter '=' 4)) ∧
      ∃ result after, statement scope (State.start "max = print(2)") = .ok result after ∧
        (Rule.line scope).outcome "max " = .ok (result, after.effects) := by
  intro scope
  have failed : (Rule.line scope).outcome "max = print(2)" =
      .error (.malformed (.unexpectedCharacter '=' 4)) := by decide +kernel
  exact ⟨failed, outcome_before_unexpected failed⟩

end Rule

end LineCalc
