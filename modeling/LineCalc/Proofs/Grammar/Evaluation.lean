import LineCalc.Proofs.Grammar.Meaning

/-!
# Evaluations

An evaluation of a tree is a derivation that shows which calls are made and in which order.  The
trees that have a meaning are those that can be evaluated, and what is asked of the console is what
the calls ask for, one after another.
-/

namespace LineCalc

/-- The tree can be evaluated with the calls, which lead from the first effects to the second ones.
There is one rule for each production, and one more for names, which are variables or builtins. -/
inductive Evaluates (scope : Scope) : {category : Category} → Tree category → Effects →
    List Call → category.Result → Effects → Prop
  | number (whole : Run Char.isDigit) (places : Option (Run Char.isDigit)) (effects : Effects) :
      Evaluates scope (.number whole places) effects []
        (.value (.number ((Decimal.ofDigits whole.characters
          (places.elim [] Run.characters)).toDouble false))) effects
  | text (content : List Char) (unquoted : '"' ∉ content) (effects : Effects) :
      Evaluates scope (.text content unquoted) effects []
        (.value (.text (String.ofList content))) effects
  | bound {letters : Run isNameChar} {value : Value} (effects : Effects) :
      scope.bindings.get? (String.ofList letters.characters) = some value →
      Evaluates scope (.name letters) effects [] (.value value) effects
  | function {letters : Run isNameChar} {builtin : Builtin} (effects : Effects) :
      scope.bindings.get? (String.ofList letters.characters) = none →
      Builtin.lookup? (String.ofList letters.characters) = some builtin →
      Evaluates scope (.name letters) effects [] (.function builtin) effects
  | call {letters : Run isNameChar} {arguments : Tree .arguments} {builtin : Builtin}
      {before middle after : Effects} {calls : List Call} {operands : List Operand}
      {result : Operand} :
      Evaluates scope arguments before calls operands middle →
      Builtin.lookup? (String.ofList letters.characters) = some builtin →
      builtin.call scope.noise operands middle = .ok (result, after) →
      Evaluates scope (.call letters arguments) before (calls ++ [⟨builtin, operands⟩]) result after
  | plus {operand : Tree .factor} {before after : Effects} {calls : List Call} {result : Operand} :
      Evaluates scope operand before calls result after →
      Evaluates scope (.plus operand) before calls result after
  | minus {operand : Tree .factor} {before after : Effects} {calls : List Call} {value : Value} :
      Evaluates scope operand before calls (.value value) after →
      Evaluates scope (.minus operand) before calls (.value value.neg) after
  | group {content : Tree .expression} {before after : Effects} {calls : List Call}
      {result : Operand} :
      Evaluates scope content before calls result after →
      Evaluates scope (.group content) before calls result after
  | factor {only : Tree .factor} {before after : Effects} {calls : List Call} {result : Operand} :
      Evaluates scope only before calls result after →
      Evaluates scope (.factor only) before calls result after
  | multiplicative {left : Tree .term} {symbol : Char} {operator : Operator}
      {known : Operator.multiplicative? symbol = some operator} {right : Tree .factor}
      {before middle after : Effects} {leftCalls rightCalls : List Call}
      {leftValue rightValue : Value} :
      Evaluates scope left before leftCalls (.value leftValue) middle →
      Evaluates scope right middle rightCalls (.value rightValue) after →
      Evaluates scope (.multiplicative left symbol operator known right) before
        (leftCalls ++ rightCalls) (.value (operator.apply leftValue rightValue)) after
  | term {only : Tree .term} {before after : Effects} {calls : List Call} {result : Operand} :
      Evaluates scope only before calls result after →
      Evaluates scope (.term only) before calls result after
  | additive {left : Tree .expression} {symbol : Char} {operator : Operator}
      {known : Operator.additive? symbol = some operator} {right : Tree .term}
      {before middle after : Effects} {leftCalls rightCalls : List Call}
      {leftValue rightValue : Value} :
      Evaluates scope left before leftCalls (.value leftValue) middle →
      Evaluates scope right middle rightCalls (.value rightValue) after →
      Evaluates scope (.additive left symbol operator known right) before
        (leftCalls ++ rightCalls) (.value (operator.apply leftValue rightValue)) after
  | last {only : Tree .expression} {before after : Effects} {calls : List Call}
      {result : Operand} :
      Evaluates scope only before calls result after →
      Evaluates scope (.last only) before calls [result] after
  | more {first : Tree .expression} {others : Tree .list} {before middle after : Effects}
      {firstCalls otherCalls : List Call} {result : Operand} {results : List Operand} :
      Evaluates scope first before firstCalls result middle →
      Evaluates scope others middle otherCalls results after →
      Evaluates scope (.more first others) before (firstCalls ++ otherCalls) (result :: results)
        after
  | empty (effects : Effects) : Evaluates scope .empty effects [] [] effects
  | filled {list : Tree .list} {before after : Effects} {calls : List Call}
      {results : List Operand} :
      Evaluates scope list before calls results after →
      Evaluates scope (.filled list) before calls results after

variable {scope : Scope} {category : Category} {tree : Tree category} {before after : Effects}

/-! ## Evaluations and meanings -/

theorem Evaluates.meaning {calls : List Call} {result : category.Result}
    (evaluates : Evaluates scope tree before calls result after) :
    tree.meaning scope before = .ok (result, after) := by
  induction evaluates with
  | number | text | empty => rfl
  | bound effects found =>
      simp only [Tree.meaning, Meaning.named, found]
      rfl
  | function effects unbound known =>
      simp only [Tree.meaning, Meaning.named, unbound, known]
      rfl
  | call _ known called ih =>
      rw [Tree.meaning, Meaning.bind_of_ok ih]
      exact Meaning.called_of_ok known called
  | minus _ ih =>
      rw [Tree.meaning, Meaning.bind_of_ok ih, Meaning.bind_of_ok (Meaning.asValue_of_ok rfl)]
      rfl
  | plus _ ih | group _ ih | factor _ ih | term _ ih | filled _ ih => exact ih
  | multiplicative _ _ leftIh rightIh | additive _ _ leftIh rightIh =>
      exact Meaning.combine_of_ok leftIh rightIh rfl rfl
  | last _ ih => exact Meaning.bind_of_ok ih
  | more _ _ firstIh othersIh =>
      rw [Tree.meaning, Meaning.bind_of_ok firstIh, Meaning.bind_of_ok othersIh]
      rfl

/-- What has a meaning can be evaluated. -/
theorem Tree.exists_evaluates {result : category.Result}
    (means : tree.meaning scope before = .ok (result, after)) :
    ∃ calls, Evaluates scope tree before calls result after := by
  induction tree generalizing before after with
  | number whole places =>
      obtain ⟨rfl, rfl⟩ := Prod.mk.inj (Except.ok.inj means)
      exact ⟨[], .number whole places _⟩
  | text content unquoted =>
      obtain ⟨rfl, rfl⟩ := Prod.mk.inj (Except.ok.inj means)
      exact ⟨[], .text content unquoted _⟩
  | name letters =>
      obtain ⟨rfl, ⟨value, bound, rfl⟩ | ⟨builtin, unbound, known, rfl⟩⟩ :=
        Meaning.named_eq_ok means
      · exact ⟨[], .bound _ bound⟩
      · exact ⟨[], .function _ unbound known⟩
  | call letters arguments ih =>
      obtain ⟨operands, middle, argumentsMean, means⟩ := Meaning.bind_eq_ok means
      obtain ⟨calls, evaluates⟩ := ih argumentsMean
      obtain ⟨builtin, known, called⟩ := Meaning.called_eq_ok means
      exact ⟨_, .call evaluates known called⟩
  | plus operand ih =>
      obtain ⟨calls, evaluates⟩ := ih means
      exact ⟨calls, .plus evaluates⟩
  | minus operand ih =>
      obtain ⟨result, middle, operandMeans, means⟩ := Meaning.bind_eq_ok means
      obtain ⟨value, _, checked, means⟩ := Meaning.bind_eq_ok means
      obtain ⟨rfl, rfl⟩ := Meaning.asValue_eq_ok checked
      obtain ⟨rfl, rfl⟩ := Prod.mk.inj (Except.ok.inj means)
      obtain ⟨calls, evaluates⟩ := ih operandMeans
      exact ⟨calls, .minus evaluates⟩
  | group content ih =>
      obtain ⟨calls, evaluates⟩ := ih means
      exact ⟨calls, .group evaluates⟩
  | factor only ih =>
      obtain ⟨calls, evaluates⟩ := ih means
      exact ⟨calls, .factor evaluates⟩
  | multiplicative left symbol operator known right leftIh rightIh =>
      obtain ⟨leftValue, rightValue, middle, leftMeans, rightMeans, rfl⟩ :=
        Meaning.combine_eq_ok means
      obtain ⟨leftCalls, leftEvaluates⟩ := leftIh leftMeans
      obtain ⟨rightCalls, rightEvaluates⟩ := rightIh rightMeans
      exact ⟨leftCalls ++ rightCalls, .multiplicative leftEvaluates rightEvaluates⟩
  | term only ih =>
      obtain ⟨calls, evaluates⟩ := ih means
      exact ⟨calls, .term evaluates⟩
  | additive left symbol operator known right leftIh rightIh =>
      obtain ⟨leftValue, rightValue, middle, leftMeans, rightMeans, rfl⟩ :=
        Meaning.combine_eq_ok means
      obtain ⟨leftCalls, leftEvaluates⟩ := leftIh leftMeans
      obtain ⟨rightCalls, rightEvaluates⟩ := rightIh rightMeans
      exact ⟨leftCalls ++ rightCalls, .additive leftEvaluates rightEvaluates⟩
  | last only ih =>
      obtain ⟨operand, middle, onlyMeans, means⟩ := Meaning.bind_eq_ok means
      obtain ⟨rfl, rfl⟩ := Prod.mk.inj (Except.ok.inj means)
      obtain ⟨calls, evaluates⟩ := ih onlyMeans
      exact ⟨calls, .last evaluates⟩
  | more first others firstIh othersIh =>
      obtain ⟨operand, middle, firstMeans, means⟩ := Meaning.bind_eq_ok means
      obtain ⟨operands, later, othersMean, means⟩ := Meaning.bind_eq_ok means
      obtain ⟨rfl, rfl⟩ := Prod.mk.inj (Except.ok.inj means)
      obtain ⟨firstCalls, firstEvaluates⟩ := firstIh firstMeans
      obtain ⟨otherCalls, othersEvaluate⟩ := othersIh othersMean
      exact ⟨firstCalls ++ otherCalls, .more firstEvaluates othersEvaluate⟩
  | empty =>
      obtain ⟨rfl, rfl⟩ := Prod.mk.inj (Except.ok.inj means)
      exact ⟨[], .empty _⟩
  | filled list ih =>
      obtain ⟨calls, evaluates⟩ := ih means
      exact ⟨calls, .filled evaluates⟩

/-! ## Requests to the console -/

/-- Every call adds what it asks for, and nothing else adds anything. -/
theorem Evaluates.events {calls : List Call} {result : category.Result}
    (evaluates : Evaluates scope tree before calls result after) :
    after.events = before.events ++ calls.flatMap Call.events := by
  induction evaluates with
  | number | text | bound | function | empty => simp
  | call _ _ called ih =>
      rw [Call.events_of_call called, ih, List.flatMap_append, List.append_assoc]
      simp
  | plus _ ih | minus _ ih | group _ ih | factor _ ih | term _ ih | last _ ih | filled _ ih =>
      exact ih
  | multiplicative _ _ leftIh rightIh | additive _ _ leftIh rightIh | more _ _ leftIh rightIh =>
      rw [rightIh, leftIh, List.flatMap_append, List.append_assoc]

/-! ## Quiet evaluations -/

/-- An evaluation with quiet calls only comes to the same from all effects, and keeps them. -/
theorem Evaluates.of_quiet {calls : List Call} {result : category.Result}
    (evaluates : Evaluates scope tree before calls result after)
    (quiet : ∀ call ∈ calls, call.Quiet) (effects : Effects) :
    Evaluates scope tree effects calls result effects := by
  induction evaluates with
  | number whole places => exact .number whole places effects
  | text content unquoted => exact .text content unquoted effects
  | bound _ found => exact .bound effects found
  | function _ unbound known => exact .function effects unbound known
  | call _ known called ih =>
      obtain ⟨within, last⟩ := List.forall_mem_append.mp quiet
      exact .call (ih within) known ((last _ List.mem_cons_self).call called effects)
  | plus _ ih => exact .plus (ih quiet)
  | minus _ ih => exact .minus (ih quiet)
  | group _ ih => exact .group (ih quiet)
  | factor _ ih => exact .factor (ih quiet)
  | term _ ih => exact .term (ih quiet)
  | last _ ih => exact .last (ih quiet)
  | filled _ ih => exact .filled (ih quiet)
  | multiplicative _ _ leftIh rightIh =>
      obtain ⟨left, right⟩ := List.forall_mem_append.mp quiet
      exact .multiplicative (leftIh left) (rightIh right)
  | additive _ _ leftIh rightIh =>
      obtain ⟨left, right⟩ := List.forall_mem_append.mp quiet
      exact .additive (leftIh left) (rightIh right)
  | more _ _ firstIh othersIh =>
      obtain ⟨first, others⟩ := List.forall_mem_append.mp quiet
      exact .more (firstIh first) (othersIh others)
  | empty => exact .empty effects

/-- An evaluation that draws no random numbers comes to the same whichever would be drawn. -/
theorem Evaluates.of_undrawn {calls : List Call} {result : category.Result}
    (evaluates : Evaluates scope tree before calls result after)
    (undrawn : ∀ call ∈ calls, call.builtin ≠ .rand) (noise : Noise) :
    Evaluates ⟨scope.bindings, noise⟩ tree before calls result after := by
  induction evaluates with
  | number whole places effects => exact .number whole places effects
  | text content unquoted effects => exact .text content unquoted effects
  | bound effects found => exact .bound effects found
  | function effects unbound known => exact .function effects unbound known
  | call _ known called ih =>
      obtain ⟨within, last⟩ := List.forall_mem_append.mp undrawn
      exact .call (ih within) known
        (Builtin.call_of_ne_rand (last _ List.mem_cons_self) called noise)
  | plus _ ih => exact .plus (ih undrawn)
  | minus _ ih => exact .minus (ih undrawn)
  | group _ ih => exact .group (ih undrawn)
  | factor _ ih => exact .factor (ih undrawn)
  | term _ ih => exact .term (ih undrawn)
  | last _ ih => exact .last (ih undrawn)
  | filled _ ih => exact .filled (ih undrawn)
  | multiplicative _ _ leftIh rightIh =>
      obtain ⟨left, right⟩ := List.forall_mem_append.mp undrawn
      exact .multiplicative (leftIh left) (rightIh right)
  | additive _ _ leftIh rightIh =>
      obtain ⟨left, right⟩ := List.forall_mem_append.mp undrawn
      exact .additive (leftIh left) (rightIh right)
  | more _ _ firstIh othersIh =>
      obtain ⟨first, others⟩ := List.forall_mem_append.mp undrawn
      exact .more (firstIh first) (othersIh others)
  | empty effects => exact .empty effects

end LineCalc
