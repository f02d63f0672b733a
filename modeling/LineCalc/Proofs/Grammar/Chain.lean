import LineCalc.Proofs.Grammar.Literal

/-!
# Chains

A chain of operands with operators between them is read by a loop, whereas its trees grow at their
left end.  A loop therefore continues a tree: reading the text of the tree leads to a state of the
loop from which the meaning of the tree is carried on.
-/

namespace LineCalc.Rule

variable {operator? : Char → Option Operator} {operand rule : Rule Operand}
variable {before middle stop after : Cursor}

/-- Blanks in front of a loop do not matter. -/
theorem chainFrom_skipBlanks {loops : Nat} (enough : before.ahead.length ≤ loops)
    (left : Operand) (effects : Effects) :
    chainFrom operator? operand loops left ⟨before, effects⟩ =
      chainFrom operator? operand loops left ⟨before.skipBlanks, effects⟩ := by
  cases loops with
  | zero =>
      have nothing : before.ahead = [] := List.eq_nil_of_length_eq_zero (Nat.le_zero.mp enough)
      rw [Cursor.skipBlanks_of_stops (Cursor.stops_of_nil nothing)]
  | succ loops =>
      have twice : before.skipBlanks.skipBlanks = before.skipBlanks := before.skipBlanks_skipBlanks
      simp only [chainFrom, Bind.bind, EStateM.bind, Rule.skipBlanks, move, twice]

/-- The rule reads the beginning of a chain that means the given thing and goes on with the loop of
the chain. -/
def Enters (operator? : Char → Option Operator) (operand rule : Rule Operand)
    (before after : Cursor) (meaning : Meaning Operand) : Prop :=
  ∃ loops, after.ahead.length ≤ loops ∧
    ∀ finish (continuation : Operand → Meaning Operand),
      (∀ left, (chainFrom operator? operand loops left).Computes after.skipBlanks finish
        (continuation left)) →
      rule.Computes before finish (meaning >>= continuation)

/-- The first operand of a chain. -/
theorem enters_first {bound : Nat} {meaning : Meaning Operand}
    (first : operand.Computes before stop meaning) (slides : after.Slides stop)
    (fits : after.ahead.length ≤ bound) :
    Enters operator? operand (chain operator? operand bound) before after meaning := by
  refine ⟨bound, fits, fun finish continuation continues => first.bind fun left => ?_⟩
  intro effects
  rw [chainFrom_skipBlanks (Nat.le_trans slides.length_le fits), ← slides.skipBlanks_eq]
  exact continues left effects

/-- One more operator and operand of a chain. -/
theorem Enters.operator {start : Cursor} {symbol : Char} {operator : Operator}
    {left right : Meaning Operand} (enters : Enters operator? operand rule before middle left)
    (passes : middle.skipBlanks.Passes [symbol] start) (known : operator? symbol = some operator)
    (next : operand.Computes start stop right) (slides : after.Slides stop)
    (onward : after.ahead.length ≤ start.ahead.length) :
    Enters operator? operand rule before after (Meaning.combine operator left right) := by
  obtain ⟨loops, fits, enters⟩ := enters
  have shorter : start.ahead.length < middle.ahead.length :=
    Cursor.length_lt_of_skipBlanks_passes passes
  have fewer : stop.ahead.length ≤ after.ahead.length := slides.length_le
  obtain ⟨loops, rfl⟩ := Nat.exists_eq_succ_of_ne_zero (show loops ≠ 0 by omega)
  refine ⟨loops, by omega, fun finish continuation continues => ?_⟩
  have combined := enters finish
    (fun leftOperand => do
      let rightOperand ← right
      let leftValue ← Meaning.asValue leftOperand
      let rightValue ← Meaning.asValue rightOperand
      continuation (.value (operator.apply leftValue rightValue))) fun leftOperand => ?_
  · simpa [Meaning.combine] using combined
  · refine (computes_skipBlanks _).followed <| (computes_peek _).followed ?_
    rw [Cursor.skipBlanks_skipBlanks, Cursor.peek_of_passes passes, Option.bind_some, known]
    refine (computes_bump passes).followed <| next.bind fun rightOperand => ?_
    refine (computes_asValue stop leftOperand).bind fun leftValue => ?_
    refine (computes_asValue stop rightOperand).bind fun rightValue => ?_
    intro effects
    rw [chainFrom_skipBlanks (by omega), ← slides.skipBlanks_eq]
    exact continues _ effects

/-- A chain ends where no operator of its kind follows. -/
theorem Enters.computes {meaning : Meaning Operand}
    (enters : Enters operator? operand rule before after meaning)
    (ends : ∀ next, after.skipBlanks.peek = some next → operator? next = none) :
    rule.Computes before after.skipBlanks meaning := by
  obtain ⟨loops, _, enters⟩ := enters
  have finished := enters after.skipBlanks pure fun left => ?_
  · simpa using finished
  · have noOperator : after.skipBlanks.peek.bind operator? = none := by
      cases found : after.skipBlanks.peek with
      | none => rfl
      | some next => exact ends next found
    cases loops with
    | zero => exact computes_pure _ left
    | succ loops =>
        refine (computes_skipBlanks _).followed <| (computes_peek _).followed ?_
        rw [Cursor.skipBlanks_skipBlanks, noOperator]
        exact computes_pure _ left

end LineCalc.Rule
