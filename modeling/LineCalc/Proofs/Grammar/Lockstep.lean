import LineCalc.Proofs.Grammar.Soundness
import LineCalc.Line.Statement

/-!
# Readings that keep step

Two readings keep step if a relation between their states is kept: both find the same, or both fail
with errors that are alike.  The texts may differ, and so may the bounds under which the rules read
them.  What is to be shown of a relation concerns blanks, single tokens, names and calls; that the
rules of the grammar keep step then follows once and for all.
-/

namespace LineCalc

/-- The same fault at another place. -/
def SyntaxError.relocate : SyntaxError → Nat → SyntaxError
  | unterminatedString _, position => unterminatedString position
  | expectedClosingParen _, position => expectedClosingParen position
  | expectedNumber _, position => expectedNumber position
  | expectedIdentifier _, position => expectedIdentifier position
  | unexpectedCharacter found _, position => unexpectedCharacter found position

namespace Cursor

theorem peek_skipBlanks_of_length {cursor : Cursor} (nothing : cursor.ahead.length = 0) :
    cursor.skipBlanks.peek = none := by
  have empty : cursor.ahead = [] := List.eq_nil_of_length_eq_zero nothing
  rw [skipBlanks_of_stops (stops_of_nil empty), peek, empty]
  rfl

theorem length_bump_lt {cursor : Cursor} {character : Char}
    (found : cursor.skipBlanks.peek = some character) :
    cursor.skipBlanks.bump.2.ahead.length < cursor.ahead.length :=
  length_lt_of_skipBlanks_passes (passes_bump found)

end Cursor

namespace Rule

/-- Two ends of readings: the same result in related states, or alike errors in related states. -/
inductive Matches {α : Type} (Holds : State → State → Prop)
    (Alike : EvalError → EvalError → Prop) :
    EStateM.Result EvalError State α → EStateM.Result EvalError State α → Prop
  | ok {here there : State} (result : α) :
      Holds here there → Matches Holds Alike (.ok result here) (.ok result there)
  | error {here there : State} {error other : EvalError} :
      Alike error other → Holds here there →
      Matches Holds Alike (.error error here) (.error other there)

variable {α β : Type} {Holds : State → State → Prop} {Alike : EvalError → EvalError → Prop}
variable {here there : State}

theorem Matches.bind {first other : Rule α} {next otherNext : α → Rule β}
    (paired : Matches Holds Alike (first here) (other there))
    (onward : ∀ result after otherAfter, first here = .ok result after →
      other there = .ok result otherAfter → Holds after otherAfter →
      Matches Holds Alike (next result after) (otherNext result otherAfter)) :
    Matches Holds Alike ((first >>= next) here) ((other >>= otherNext) there) := by
  generalize left : first here = result at paired
  generalize right : other there = otherResult at paired
  cases paired with
  | ok result holds =>
      rw [bind_of_ok left, bind_of_ok right]
      exact onward result _ _ left right holds
  | error alike holds =>
      rw [bind_of_error left, bind_of_error right]
      exact .error alike holds

/-- Where a bound is needed: the two rules keep step on texts within their bounds. -/
def KeepStep (Holds : State → State → Prop) (Alike : EvalError → EvalError → Prop)
    (bound otherBound : Nat) (rule other : Rule α) : Prop :=
  ∀ here there, Holds here there → here.cursor.ahead.length ≤ bound →
    there.cursor.ahead.length ≤ otherBound → Matches Holds Alike (rule here) (other there)

/-- What a relation between the states of two readings has to keep. -/
structure Lockstep (scope other : Scope) (Holds : State → State → Prop)
    (Alike : EvalError → EvalError → Prop) : Prop where
  skip {here there : State} : Holds here there →
    Holds ⟨here.cursor.skipBlanks, here.effects⟩ ⟨there.cursor.skipBlanks, there.effects⟩
  peek {here there : State} : Holds here there →
    here.cursor.skipBlanks.peek = there.cursor.skipBlanks.peek
  step {here there : State} {mark : Char} : Holds here there → mark ∈ marks →
    here.cursor.peek = some mark → there.cursor.peek = some mark →
    Holds ⟨here.cursor.bump.2, here.effects⟩ ⟨there.cursor.bump.2, there.effects⟩
  string {here there : State} : Holds here there → here.cursor.peek = some '"' →
    there.cursor.peek = some '"' → Matches Holds Alike (string here) (string there)
  number {here there : State} : Holds here there →
    Matches Holds Alike (number here) (number there)
  identifier {here there : State} : Holds here there →
    Matches Holds Alike (identifier here) (identifier there)
  bound {here there after otherAfter : State} {name : String} : Holds here there →
    Rule.identifier here = .ok name after → Rule.identifier there = .ok name otherAfter →
    after.cursor.skipBlanks.peek ≠ some '(' →
    scope.bindings.get? name = other.bindings.get? name
  call {here there : State} (builtin : Builtin) (operands : List Operand) : Holds here there →
    Matches Holds Alike (call scope builtin operands here) (call other builtin operands there)
  place {here there : State} (error : SyntaxError) : Holds here there →
    here.cursor.Stops Text.isBlank → there.cursor.Stops Text.isBlank →
    Alike (.malformed (error.relocate here.cursor.position))
      (.malformed (error.relocate there.cursor.position))
  meaning (error : SemanticError) : Alike (.meaningless error) (.meaningless error)

/-- Behind blanks, a mark is stepped over unless something else follows. -/
theorem eat_eq_ok {mark : Char} {cursor : Cursor} {effects : Effects} {eaten : Bool}
    {after : State} (ate : eat mark ⟨cursor.skipBlanks, effects⟩ = .ok eaten after) :
    after.cursor.ahead.length ≤ cursor.ahead.length ∧
      (eaten = false → cursor.skipBlanks.peek ≠ some mark ∧ after.cursor = cursor.skipBlanks) := by
  by_cases found : cursor.skipBlanks.peek = some mark
  · simp only [eat, move, Cursor.eat_of_passes (Cursor.passes_bump found),
      EStateM.Result.ok.injEq] at ate
    obtain ⟨rfl, rfl⟩ := ate
    exact ⟨Nat.le_of_lt (Cursor.length_bump_lt found), by simp⟩
  · simp only [eat, move, Cursor.eat_of_ne found, EStateM.Result.ok.injEq] at ate
    obtain ⟨rfl, rfl⟩ := ate
    exact ⟨(Cursor.Slides.skipBlanks cursor).length_le, fun _ => ⟨found, rfl⟩⟩

/-- The rule leaves less ahead. -/
def Shortens (rule : Rule α) : Prop :=
  ∀ before result after, rule before = .ok result after →
    after.cursor.ahead.length < before.cursor.ahead.length

theorem Sound.shortens {scope : Scope} {category : Category} {rule : Rule category.Result}
    (sound : Sound scope category rule) (nonempty : category ≠ .arguments) : Shortens rule := by
  intro before result after accepted
  obtain ⟨tree, reached, spells, slides, _⟩ := sound before result after accepted
  obtain ⟨token, tokens, split, visible, _⟩ := (tree.begins nonempty).exists_cons
  rw [split] at spells
  obtain ⟨middle, passes, others⟩ := spells.divide_cons visible
  obtain ⟨first, characters, written, _⟩ := visible
  rw [written] at passes
  have shorter : middle.ahead.length < before.cursor.ahead.length :=
    Cursor.length_lt_of_skipBlanks_passes passes
  have slid := slides.length_le
  have passed := others.length_le
  omega

theorem shortens_identifier : Shortens identifier := by
  intro before name after read
  obtain ⟨letters, _, passes, _⟩ := identifier_eq_ok read
  obtain ⟨first, others, split, _⟩ := letters.exists_cons
  exact Cursor.length_lt_of_skipBlanks_passes (split ▸ passes)

theorem number_skipBlanks (state : State) :
    number ⟨state.cursor.skipBlanks, state.effects⟩ = number state := by
  rw [number, skipBlanks_bind, skipBlanks_bind, Cursor.skipBlanks_skipBlanks]

/-- With nothing ahead, the bound does not matter. -/
theorem factorWithin_of_none {scope : Scope} {bound : Nat} {state : State}
    (nothing : state.cursor.skipBlanks.peek = none) :
    factorWithin scope bound state =
      (do return .value (.number (← number)) : Rule Operand) state := by
  cases bound with
  | zero => rfl
  | succ bound =>
      rw [factorWithin, skipBlanks_bind, peek_bind, nothing]
      simp [Bind.bind, EStateM.bind, number_skipBlanks]

/-- From where the bound covers what is ahead, the rule leads to places that have the property. -/
def LeadsTo (Reached : Cursor → Prop) (bound : Nat) (rule : Rule α) : Prop :=
  ∀ before result after, before.cursor.ahead.length ≤ bound → rule before = .ok result after →
    Reached after.cursor

/-- A list of arguments ends behind its last expression and the blanks that follow. -/
theorem argumentsFrom_ends {content : Rule Operand} {Reached : Cursor → Prop} {bound loops : Nat}
    {before after : State} {operands : List Operand} (shortens : Shortens content)
    (leads : LeadsTo Reached bound content) (within : loops ≤ bound)
    (fits : before.cursor.ahead.length ≤ loops)
    (read : argumentsFrom content loops before = .ok operands after) :
    ∃ last, Reached last ∧ after.cursor = last.skipBlanks := by
  induction loops generalizing before operands with
  | zero =>
      obtain ⟨operand, middle, taken, _⟩ := bind_eq_ok read
      exact absurd (shortens _ _ _ taken) (by omega)
  | succ loops ih =>
      rw [argumentsFrom] at read
      obtain ⟨operand, middle, taken, read⟩ := bind_eq_ok read
      have fewer := shortens _ _ _ taken
      have reached := leads before operand middle (by omega) taken
      rw [skipBlanks_bind] at read
      obtain ⟨comma, start, ate, read⟩ := bind_eq_ok read
      obtain ⟨onward, still⟩ := eat_eq_ok ate
      cases comma with
      | false =>
          obtain ⟨_, rfl⟩ := pure_eq_ok read
          exact ⟨middle.cursor, reached, (still rfl).2⟩
      | true =>
          obtain ⟨others, last, more, read⟩ := bind_eq_ok read
          obtain ⟨_, rfl⟩ := pure_eq_ok read
          exact ih (by omega) (by omega) more

/-- A list of arguments ends before something that is not blank. -/
theorem argumentsFrom_stops {content : Rule Operand} (shortens : Shortens content)
    {loops : Nat} {before after : State} {operands : List Operand}
    (fits : before.cursor.ahead.length ≤ loops)
    (read : argumentsFrom content loops before = .ok operands after) :
    after.cursor.Stops Text.isBlank := by
  have anywhere : LeadsTo (fun _ => True) loops content := fun _ _ _ _ _ => trivial
  obtain ⟨last, _, same⟩ := argumentsFrom_ends shortens anywhere (Nat.le_refl loops) fits read
  exact same ▸ last.stops_skipBlanks

section Chains

variable {operator? : Char → Option Operator} {operand : Rule Operand} {loops : Nat}
variable {left : Operand} {state : State}

theorem chainFrom_of_none (fits : state.cursor.ahead.length ≤ loops)
    (ends : state.cursor.skipBlanks.peek.bind operator? = none) :
    chainFrom operator? operand loops left state =
      .ok left ⟨state.cursor.skipBlanks, state.effects⟩ := by
  cases loops with
  | zero =>
      have nothing : state.cursor.ahead = [] :=
        List.eq_nil_of_length_eq_zero (Nat.le_zero.mp fits)
      rw [Cursor.skipBlanks_of_stops (Cursor.stops_of_nil nothing)]
      rfl
  | succ loops =>
      rw [chainFrom, skipBlanks_bind, peek_bind, ends]
      rfl

theorem chainFrom_of_some {symbol : Char} {operator : Operator}
    (found : state.cursor.skipBlanks.peek = some symbol)
    (known : operator? symbol = some operator) :
    chainFrom operator? operand (loops + 1) left state =
      (do
        let right ← operand
        let leftValue ← asValue left
        let rightValue ← asValue right
        chainFrom operator? operand loops (.value (operator.apply leftValue rightValue)))
        ⟨state.cursor.skipBlanks.bump.2, state.effects⟩ := by
  rw [chainFrom, skipBlanks_bind, peek_bind, found, Option.bind_some, known]
  rfl

end Chains

variable {scope otherScope : Scope} {bound otherBound : Nat}

/-! ## Single steps -/

namespace Lockstep

variable (lockstep : Lockstep scope otherScope Holds Alike)
include lockstep

theorem asValue (operand : Operand) (holds : Holds here there) :
    Matches Holds Alike (asValue operand here) (asValue operand there) := by
  cases operand with
  | value content => exact .ok content holds
  | function builtin => exact .error (lockstep.meaning _) holds
  | nothing builtin => exact .error (lockstep.meaning _) holds

/-- Behind blanks, both readings step over a mark or neither does. -/
theorem eat {mark : Char} (holds : Holds here there) (known : mark ∈ marks) :
    Matches Holds Alike (eat mark ⟨here.cursor.skipBlanks, here.effects⟩)
      (Rule.eat mark ⟨there.cursor.skipBlanks, there.effects⟩) := by
  have cleared := lockstep.skip holds
  have same := lockstep.peek holds
  by_cases found : here.cursor.skipBlanks.peek = some mark
  · have foundThere : there.cursor.skipBlanks.peek = some mark := same ▸ found
    have stepped := lockstep.step cleared known found foundThere
    simp only [Rule.eat, move, Cursor.eat_of_passes (Cursor.passes_bump found),
      Cursor.eat_of_passes (Cursor.passes_bump foundThere)]
    exact .ok true stepped
  · have missing : there.cursor.skipBlanks.peek ≠ some mark := same ▸ found
    simp only [Rule.eat, move, Cursor.eat_of_ne found, Cursor.eat_of_ne missing]
    exact .ok false cleared

theorem closingParen (holds : Holds here there) (stops : here.cursor.Stops Text.isBlank)
    (otherStops : there.cursor.Stops Text.isBlank) :
    Matches Holds Alike (closingParen here) (Rule.closingParen there) := by
  rw [Rule.closingParen, position_bind, position_bind]
  have eaten := lockstep.eat holds (by decide : ')' ∈ marks)
  rw [Cursor.skipBlanks_of_stops stops, Cursor.skipBlanks_of_stops otherStops] at eaten
  refine eaten.bind fun closed after otherAfter ate otherAte later => ?_
  cases closed with
  | true => exact .ok () later
  | false =>
    exact .error (lockstep.place (.expectedClosingParen 0) holds stops otherStops) later

theorem named {name : String} (holds : Holds here there)
    (same : scope.bindings.get? name = otherScope.bindings.get? name) :
    Matches Holds Alike (named scope name here) (Rule.named otherScope name there) := by
  unfold Rule.named
  rw [← same]
  cases scope.bindings.get? name with
  | some value => exact .ok _ holds
  | none =>
      cases Builtin.lookup? name with
      | some builtin => exact .ok _ holds
      | none => exact .error (lockstep.meaning _) holds

/-! ## Chains -/

theorem chainFrom {operator? : Char → Option Operator} {operand otherOperand : Rule Operand}
    (written : ∀ symbol operator, operator? symbol = some operator → symbol ∈ marks)
    (paired : KeepStep Holds Alike bound otherBound operand otherOperand)
    (shortens : Shortens operand) (otherShortens : Shortens otherOperand)
    {loops otherLoops : Nat} (within : loops ≤ bound) (otherWithin : otherLoops ≤ otherBound)
    (left : Operand) (holds : Holds here there) (fits : here.cursor.ahead.length ≤ loops)
    (otherFits : there.cursor.ahead.length ≤ otherLoops) :
    Matches Holds Alike (chainFrom operator? operand loops left here)
      (Rule.chainFrom operator? otherOperand otherLoops left there) := by
  have ended {here there : State} {loops otherLoops : Nat} (holds : Holds here there)
      (fits : here.cursor.ahead.length ≤ loops) (otherFits : there.cursor.ahead.length ≤ otherLoops)
      (left : Operand) (ends : here.cursor.skipBlanks.peek.bind operator? = none) :
      Matches Holds Alike (Rule.chainFrom operator? operand loops left here)
        (Rule.chainFrom operator? otherOperand otherLoops left there) := by
    have otherEnds : there.cursor.skipBlanks.peek.bind operator? = none :=
      lockstep.peek holds ▸ ends
    rw [chainFrom_of_none fits ends, chainFrom_of_none otherFits otherEnds]
    exact .ok left (lockstep.skip holds)
  induction loops generalizing otherLoops left here there with
  | zero =>
      refine ended holds fits otherFits left ?_
      have nothing : here.cursor.skipBlanks.peek = none :=
        Cursor.peek_skipBlanks_of_length (Nat.le_zero.mp fits)
      rw [nothing, Option.bind_none]
  | succ loops ih =>
      cases next : here.cursor.skipBlanks.peek.bind operator? with
      | none => exact ended holds fits otherFits left next
      | some operator =>
          obtain ⟨symbol, found, known⟩ := Option.bind_eq_some_iff.mp next
          have foundThere : there.cursor.skipBlanks.peek = some symbol :=
            (lockstep.peek holds).symm.trans found
          have shorter := Cursor.length_bump_lt found
          have otherShorter := Cursor.length_bump_lt foundThere
          obtain ⟨otherLoops, rfl⟩ :=
            Nat.exists_eq_succ_of_ne_zero (show otherLoops ≠ 0 by omega)
          rw [chainFrom_of_some found known, chainFrom_of_some foundThere known]
          have stepped := lockstep.step (lockstep.skip holds) (written symbol operator known)
            found foundThere
          refine (paired _ _ stepped (by simp only; omega) (by simp only; omega)).bind
            fun right reached otherReached read otherRead later => ?_
          have fewer := shortens _ _ _ read
          have otherFewer := otherShortens _ _ _ otherRead
          refine (lockstep.asValue left later).bind
            fun leftValue after otherAfter checked otherChecked later => ?_
          obtain ⟨_, rfl⟩ := asValue_eq_ok checked
          obtain ⟨_, rfl⟩ := asValue_eq_ok otherChecked
          refine (lockstep.asValue right later).bind
            fun rightValue after otherAfter checked otherChecked later => ?_
          obtain ⟨_, rfl⟩ := asValue_eq_ok checked
          obtain ⟨_, rfl⟩ := asValue_eq_ok otherChecked
          simp only at fewer otherFewer
          exact ih (by omega) (by omega) _ later (by omega) (by omega)

theorem chain {operator? : Char → Option Operator} {operand otherOperand : Rule Operand}
    (written : ∀ symbol operator, operator? symbol = some operator → symbol ∈ marks)
    (paired : KeepStep Holds Alike bound otherBound operand otherOperand)
    (shortens : Shortens operand) (otherShortens : Shortens otherOperand) :
    KeepStep Holds Alike bound otherBound (chain operator? operand bound)
      (Rule.chain operator? otherOperand otherBound) := by
  intro here there holds fits otherFits
  refine (paired here there holds fits otherFits).bind
    fun left after otherAfter read otherRead later => ?_
  have fewer := shortens _ _ _ read
  have otherFewer := otherShortens _ _ _ otherRead
  exact lockstep.chainFrom written paired shortens otherShortens (Nat.le_refl _) (Nat.le_refl _)
    left later (by omega) (by omega)

section Operands

variable {factor otherFactor : Rule Operand}

theorem termOf (paired : KeepStep Holds Alike bound otherBound factor otherFactor)
    (shortens : Shortens factor) (otherShortens : Shortens otherFactor) :
    KeepStep Holds Alike bound otherBound (termOf factor bound)
      (Rule.termOf otherFactor otherBound) := by
  have written : ∀ symbol operator, Operator.multiplicative? symbol = some operator →
      symbol ∈ marks := fun symbol operator known =>
    (by decide : ['*', '/', '%'] ⊆ marks) (Operator.mem_of_multiplicative known)
  exact lockstep.chain written paired shortens otherShortens

theorem expressionOf (paired : KeepStep Holds Alike bound otherBound factor otherFactor)
    (sound : Sound scope .factor factor) (otherSound : Sound otherScope .factor otherFactor) :
    KeepStep Holds Alike bound otherBound (expressionOf factor bound)
      (Rule.expressionOf otherFactor otherBound) := by
  have written : ∀ symbol operator, Operator.additive? symbol = some operator →
      symbol ∈ marks := fun symbol operator known =>
    (by decide : ['+', '-'] ⊆ marks) (Operator.mem_of_additive known)
  have terms := lockstep.termOf paired (sound.shortens (by simp)) (otherSound.shortens (by simp))
  exact lockstep.chain written terms ((termOf_sound sound).shortens (by simp))
    ((termOf_sound otherSound).shortens (by simp))

end Operands

/-! ## Arguments -/

variable {content otherContent : Rule Operand}

theorem argumentsFrom
    (paired : KeepStep Holds Alike bound otherBound content otherContent)
    (shortens : Shortens content) (otherShortens : Shortens otherContent)
    {loops otherLoops : Nat} (within : loops ≤ bound) (otherWithin : otherLoops ≤ otherBound)
    (holds : Holds here there) (fits : here.cursor.ahead.length ≤ loops)
    (otherFits : there.cursor.ahead.length ≤ otherLoops) :
    Matches Holds Alike (argumentsFrom content loops here)
      (Rule.argumentsFrom otherContent otherLoops there) := by
  induction loops generalizing otherLoops here there with
  | zero =>
      have never {result : Operand} {after : State} : content here ≠ .ok result after :=
        fun read => absurd (shortens _ _ _ read) (by omega)
      cases otherLoops <;>
        exact (paired here there holds (by omega) (by omega)).bind
          fun operand after otherAfter read _ _ => absurd read never
  | succ loops ih =>
      have first := paired here there holds (by omega) (by omega)
      cases otherLoops with
      | zero =>
          exact first.bind fun operand after otherAfter _ otherRead _ =>
            absurd (otherShortens _ _ _ otherRead) (by omega)
      | succ otherLoops =>
          refine first.bind fun operand after otherAfter read otherRead later => ?_
          have fewer := shortens _ _ _ read
          have otherFewer := otherShortens _ _ _ otherRead
          rw [skipBlanks_bind, skipBlanks_bind]
          refine (lockstep.eat later (by decide : ',' ∈ marks)).bind
            fun comma start otherStart ate otherAte later => ?_
          obtain ⟨onward, still⟩ := eat_eq_ok ate
          obtain ⟨otherOnward, _⟩ := eat_eq_ok otherAte
          cases comma with
          | false => exact .ok _ later
          | true =>
              refine (ih (by omega) (by omega) later (by omega) (by omega)).bind
                fun operands _ _ _ _ later => ?_
              exact .ok _ later

theorem arguments
    (paired : KeepStep Holds Alike bound otherBound content otherContent)
    (shortens : Shortens content) (otherShortens : Shortens otherContent) :
    KeepStep Holds Alike bound otherBound (arguments content bound)
      (Rule.arguments otherContent otherBound) := by
  intro here there holds fits otherFits
  have cleared := lockstep.skip holds
  have same := lockstep.peek holds
  have skipped := (Cursor.Slides.skipBlanks here.cursor).length_le
  have otherSkipped := (Cursor.Slides.skipBlanks there.cursor).length_le
  rw [Rule.arguments, Rule.arguments, skipBlanks_bind, skipBlanks_bind, peek_bind, peek_bind]
  by_cases closes : here.cursor.skipBlanks.peek = some ')'
  · rw [if_pos closes, if_pos (same ▸ closes)]
    refine (lockstep.closingParen cleared here.cursor.stops_skipBlanks
      there.cursor.stops_skipBlanks).bind fun _ _ _ _ _ later => ?_
    exact .ok _ later
  · rw [if_neg closes, if_neg (same ▸ closes)]
    refine (lockstep.argumentsFrom paired shortens otherShortens (Nat.le_refl _) (Nat.le_refl _)
      cleared (by simp only; omega) (by simp only; omega)).bind
      fun operands after otherAfter read otherRead later => ?_
    have stops := argumentsFrom_stops shortens (by simp only; omega) read
    have otherStops := argumentsFrom_stops otherShortens (by simp only; omega) otherRead
    refine (lockstep.closingParen later stops otherStops).bind fun _ _ _ _ _ later => ?_
    exact .ok _ later

/-! ## Names, calls and factors -/

theorem nameOrCall
    (paired : KeepStep Holds Alike bound otherBound content otherContent)
    (sound : Sound scope .expression content)
    (otherSound : Sound otherScope .expression otherContent) :
    KeepStep Holds Alike (bound + 1) (otherBound + 1) (nameOrCall scope content bound)
      (Rule.nameOrCall otherScope otherContent otherBound) := by
  intro here there holds fits otherFits
  refine (lockstep.identifier holds).bind fun name after otherAfter read otherRead later => ?_
  have fewer := shortens_identifier _ _ _ read
  have otherFewer := shortens_identifier _ _ _ otherRead
  have same := lockstep.bound holds read otherRead
  rw [skipBlanks_bind, skipBlanks_bind]
  refine (lockstep.eat later (by decide : '(' ∈ marks)).bind
    fun opens start otherStart ate otherAte later => ?_
  obtain ⟨onward, closed⟩ := eat_eq_ok ate
  obtain ⟨otherOnward, _⟩ := eat_eq_ok otherAte
  cases opens with
  | false => exact lockstep.named later (same (closed rfl).1)
  | true =>
      have list := lockstep.arguments paired (sound.shortens (by simp))
        (otherSound.shortens (by simp))
      refine (list start otherStart later (by omega) (by omega)).bind
        fun operands _ _ _ _ later => ?_
      cases Builtin.lookup? name with
      | none => exact .error (lockstep.meaning _) later
      | some builtin => exact lockstep.call builtin operands later

/-- Behind a mark that both readings step over, less is ahead than the bounds allow for. -/
theorem opened {mark : Char} {rule other : Rule α} (holds : Holds here there)
    (known : mark ∈ marks) (found : here.cursor.skipBlanks.peek = some mark)
    (fits : here.cursor.ahead.length ≤ bound + 1)
    (otherFits : there.cursor.ahead.length ≤ otherBound + 1)
    (paired : KeepStep Holds Alike bound otherBound rule other) :
    Matches Holds Alike ((do bump; rule : Rule α) ⟨here.cursor.skipBlanks, here.effects⟩)
      ((do bump; other : Rule α) ⟨there.cursor.skipBlanks, there.effects⟩) := by
  have foundThere : there.cursor.skipBlanks.peek = some mark :=
    (lockstep.peek holds).symm.trans found
  have shorter := Cursor.length_bump_lt found
  have otherShorter := Cursor.length_bump_lt foundThere
  have stepped := lockstep.step (lockstep.skip holds) known found foundThere
  exact paired _ _ stepped (by simp only; omega) (by simp only; omega)

theorem number_matches (holds : Holds here there) :
    Matches Holds Alike ((do return .value (.number (← Rule.number)) : Rule Operand) here)
      ((do return .value (.number (← Rule.number)) : Rule Operand) there) :=
  (lockstep.number holds).bind fun _ _ _ _ _ later => .ok _ later

theorem factorWithin :
    KeepStep Holds Alike bound otherBound (factorWithin scope bound)
      (Rule.factorWithin otherScope otherBound) := by
  induction bound generalizing otherBound with
  | zero =>
      intro here there holds fits otherFits
      have nothing := Cursor.peek_skipBlanks_of_length (Nat.le_zero.mp fits)
      rw [factorWithin_of_none nothing, factorWithin_of_none (lockstep.peek holds ▸ nothing)]
      exact lockstep.number_matches holds
  | succ bound ih =>
      intro here there holds fits otherFits
      have same := lockstep.peek holds
      cases otherBound with
      | zero =>
          have nothing := Cursor.peek_skipBlanks_of_length (Nat.le_zero.mp otherFits)
          rw [factorWithin_of_none nothing, factorWithin_of_none (same ▸ nothing)]
          exact lockstep.number_matches holds
      | succ otherBound =>
          have cleared := lockstep.skip holds
          rw [Rule.factorWithin, Rule.factorWithin, skipBlanks_bind, skipBlanks_bind, peek_bind,
            peek_bind]
          simp only [← same]
          generalize found : here.cursor.skipBlanks.peek = next
          split
          · exact (lockstep.string cleared found (same ▸ found)).bind
              fun _ _ _ _ _ later => .ok _ later
          · exact (lockstep.opened holds (by decide : '+' ∈ marks) found fits otherFits ih)
          · exact (lockstep.opened holds (by decide : '-' ∈ marks) found fits otherFits ih).bind
              fun operand _ _ _ _ later => (lockstep.asValue operand later).bind
                fun value _ _ _ _ later => .ok _ later
          · have inside := lockstep.expressionOf ih (factorWithin_sound scope bound)
              (factorWithin_sound otherScope otherBound)
            have opens : '(' ∈ marks := by decide
            refine (lockstep.opened holds opens found fits otherFits inside).bind
              fun operand after otherAfter _ _ later => ?_
            rw [skipBlanks_bind, skipBlanks_bind]
            refine (lockstep.closingParen (lockstep.skip later) after.cursor.stops_skipBlanks
              otherAfter.cursor.stops_skipBlanks).bind fun _ _ _ _ _ later => ?_
            exact .ok operand later
          · by_cases letter : next.any isNameChar = true
            · rw [if_pos letter, if_pos letter]
              have inside := lockstep.expressionOf ih (factorWithin_sound scope bound)
                (factorWithin_sound otherScope otherBound)
              have skipped := (Cursor.Slides.skipBlanks here.cursor).length_le
              have otherSkipped := (Cursor.Slides.skipBlanks there.cursor).length_le
              exact lockstep.nameOrCall inside (expressionOf_sound (factorWithin_sound scope bound))
                (expressionOf_sound (factorWithin_sound otherScope otherBound)) _ _ cleared
                (by simp only; omega) (by simp only; omega)
            · rw [if_neg letter, if_neg letter]
              exact lockstep.number_matches cleared

/-! ## The rules of the grammar -/

theorem factor (holds : Holds here there) :
    Matches Holds Alike (Rule.factor scope here) (Rule.factor otherScope there) :=
  lockstep.factorWithin here there holds (Nat.le_refl _) (Nat.le_refl _)

theorem term (holds : Holds here there) :
    Matches Holds Alike (term scope here) (Rule.term otherScope there) :=
  lockstep.termOf lockstep.factorWithin ((factorWithin_sound scope _).shortens (by simp))
    ((factorWithin_sound otherScope _).shortens (by simp)) here there holds (Nat.le_refl _)
    (Nat.le_refl _)

theorem expression (holds : Holds here there) :
    Matches Holds Alike (expression scope here) (Rule.expression otherScope there) := by
  exact lockstep.expressionOf lockstep.factorWithin (factorWithin_sound scope _)
    (factorWithin_sound otherScope _) here there holds (Nat.le_refl _) (Nat.le_refl _)

theorem assignment (holds : Holds here there) :
    Matches Holds Alike (assignment scope here) (Rule.assignment otherScope there) := by
  refine (lockstep.identifier holds).bind fun name after otherAfter read otherRead later => ?_
  rw [skipBlanks_bind, skipBlanks_bind]
  refine (lockstep.eat later (by decide : '=' ∈ marks)).bind
    fun equals start otherStart _ _ later => ?_
  cases equals with
  | false => exact .ok none later
  | true =>
      refine (lockstep.expression later).bind fun operand _ _ _ _ later => ?_
      exact (lockstep.asValue operand later).bind fun value _ _ _ _ later => .ok _ later

theorem statement (holds : Holds here there) :
    Matches Holds Alike (statement scope here) (Rule.statement otherScope there) := by
  have cleared := lockstep.skip holds
  have attempt := lockstep.assignment cleared
  have otherwise : Matches Holds Alike
      ((do return .expression (← Rule.expression scope) : Rule Statement)
        ⟨here.cursor.skipBlanks, here.effects⟩)
      ((do return .expression (← Rule.expression otherScope) : Rule Statement)
        ⟨there.cursor.skipBlanks, there.effects⟩) :=
    (lockstep.expression cleared).bind fun operand _ _ _ _ later => .ok _ later
  rw [Rule.statement, Rule.statement, skipBlanks_bind, skipBlanks_bind]
  unfold orElse
  generalize Rule.assignment scope ⟨here.cursor.skipBlanks, here.effects⟩ = first at attempt
  generalize Rule.assignment otherScope ⟨there.cursor.skipBlanks, there.effects⟩ = other at attempt
  cases attempt with
  | error alike later => exact otherwise
  | ok result later =>
      cases result with
      | none => exact otherwise
      | some taken => exact .ok taken later

theorem lineEnd (holds : Holds here there) :
    Matches Holds Alike (lineEnd here) (Rule.lineEnd there) := by
  have cleared := lockstep.skip holds
  rw [Rule.lineEnd, skipBlanks_bind, skipBlanks_bind, peek_bind, peek_bind]
  simp only [← lockstep.peek holds]
  cases here.cursor.skipBlanks.peek with
  | none => exact .ok () cleared
  | some found =>
      exact .error (lockstep.place (.unexpectedCharacter found 0) cleared
        here.cursor.stops_skipBlanks there.cursor.stops_skipBlanks) cleared

/-- Readings of whole lines keep step. -/
theorem line (holds : Holds here there) :
    Matches Holds Alike (line scope here) (Rule.line otherScope there) := by
  refine (lockstep.statement holds).bind fun result _ _ _ _ later => ?_
  exact (lockstep.lineEnd later).bind fun _ _ _ _ _ later => .ok result later

end Lockstep

end Rule

end LineCalc
