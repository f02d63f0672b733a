import LineCalc.Proofs.Builtin.Unread
import LineCalc.Proofs.Session.Atomic

/-!
# Values and requests

A line that has a value should ask nothing of the console, and a line without one should ask for one
thing: only a call that speaks to the console has an empty result, and an empty result can only be
the result of the line.  This holds unless an empty result is lost as an unread argument.
-/

namespace LineCalc

/-- What a phrase amounts to, as a list. -/
def Category.operands : (category : Category) → category.Result → List Operand
  | factor | term | expression => fun operand => [operand]
  | list | arguments => fun operands => operands

/-- A call that asks for something has an empty result, and reads no empty result. -/
theorem Call.length_events {noise : Noise} {builtin : Builtin} {operands : List Operand}
    {before after : Effects} {result : Operand}
    (called : builtin.call noise operands before = .ok (result, after)) :
    (events ⟨builtin, operands⟩).length = [result].countP Operand.isNothing ∧
      operands.countP Operand.isNothing =
        (unread ⟨builtin, operands⟩).countP Operand.isNothing := by
  obtain ⟨reply, replied, carried⟩ := Builtin.call_eq_ok called
  refine ⟨?_, Builtin.countP_isNothing_of_reply replied⟩
  obtain rfl : _ = result := congrArg Prod.fst carried
  rw [events, replied]
  cases reply <;> rfl

/-- Each request to the console has an empty result, which is a result of the phrase or an argument
that is not read. -/
theorem Evaluates.length_events {scope : Scope} {category : Category} {tree : Tree category}
    {before after : Effects} {calls : List Call} {result : category.Result}
    (evaluates : Evaluates scope tree before calls result after) :
    (calls.flatMap Call.events).length =
      (category.operands result ++ calls.flatMap Call.unread).countP Operand.isNothing := by
  induction evaluates with
  | number | text | bound | function | empty => rfl
  | @call _ _ builtin _ _ _ calls operands result _ _ called ih =>
      obtain ⟨asked, read⟩ := Call.length_events called
      -- By induction, what is asked for so far is an argument now; the call reads none of it.
      have inArguments : (calls.flatMap Call.events).length =
          (operands ++ calls.flatMap Call.unread).countP Operand.isNothing := ih
      simp only [List.flatMap_append, List.flatMap_singleton, List.length_append,
        List.countP_append, Category.operands] at inArguments ⊢
      omega
  | plus _ ih | minus _ ih | group _ ih | factor _ ih | term _ ih | last _ ih | filled _ ih =>
      exact ih
  | multiplicative _ _ leftIh rightIh | additive _ _ leftIh rightIh =>
      rw [List.flatMap_append, List.length_append, leftIh, rightIh]
      simp [Category.operands, Operand.isNothing]
  | @more _ _ _ _ _ firstCalls otherCalls result results _ _ firstIh othersIh =>
      rw [List.flatMap_append, List.length_append, firstIh, othersIh]
      have both : (result :: results).countP Operand.isNothing =
          [result].countP Operand.isNothing + results.countP Operand.isNothing := by
        rw [← List.countP_append]
        rfl
      simp only [List.flatMap_append, List.countP_append, Category.operands, both]
      omega

/-- The line has a value and asks nothing of the console, or has none and asks for one thing. -/
def Evaluation.Exclusive (evaluation : Evaluation) : Prop :=
  match evaluation.result with
  | .ok (some _) => evaluation.events = []
  | .ok none => evaluation.events.length = 1
  | .error _ => evaluation.events = []

instance (evaluation : Evaluation) : Decidable evaluation.Exclusive :=
  match evaluation with
  | ⟨.ok (some _), events, _⟩ => inferInstanceAs (Decidable (events = []))
  | ⟨.ok none, events, _⟩ => inferInstanceAs (Decidable (events.length = 1))
  | ⟨.error _, events, _⟩ => inferInstanceAs (Decidable (events = []))

namespace Session

variable {noise : Noise} {session : Session} {line : String} {result : Option Value}

/-- A line without a value asks for one thing and a line with a value for nothing, but for the empty
results that are not read. -/
theorem length_events_of_reading {statement : Statement} {calls : List Call}
    (reads : Reading ⟨session.bindings, noise⟩ line statement calls)
    (ok : (session.evaluate noise line).result = .ok result) :
    (session.evaluate noise line).events.length =
      (if result.isNone then 1 else 0) +
        (calls.flatMap Call.unread).countP Operand.isNothing := by
  rw [evaluate_of_reading reads] at ok ⊢
  cases reads with
  | assignment letters tree _ evaluates =>
      have counted := evaluates.length_events
      rw [List.countP_append] at counted
      obtain rfl := Except.ok.inj ok
      exact counted
  | @expression operand _ _ tree _ evaluates =>
      have counted := evaluates.length_events
      rw [List.countP_append] at counted
      cases operand with
      | function builtin => exact absurd ok (by simp [accepted, outcome, Operand.asValue])
      | value value =>
          obtain rfl := Except.ok.inj ok
          exact counted
      | nothing builtin =>
          obtain rfl := Except.ok.inj ok
          exact counted

theorem exclusive_iff_length (ok : (session.evaluate noise line).result = .ok result) :
    (session.evaluate noise line).Exclusive ↔
      (session.evaluate noise line).events.length = if result.isNone then 1 else 0 := by
  unfold Evaluation.Exclusive
  rw [ok]
  cases result <;> simp

/-- Values and requests exclude each other exactly if no empty result is lost, that is, if no call
of `max` or `min` has an empty result behind its first argument that is not a number. -/
theorem exclusive_iff (ok : (session.evaluate noise line).result = .ok result) :
    (session.evaluate noise line).Exclusive ↔
      ∀ statement calls, Reading ⟨session.bindings, noise⟩ line statement calls →
        ∀ call ∈ calls, ∀ operand ∈ call.unread, operand.isNothing = false := by
  have lossless {calls : List Call} :
      (calls.flatMap Call.unread).countP Operand.isNothing = 0 ↔
        ∀ call ∈ calls, ∀ operand ∈ call.unread, operand.isNothing = false := by
    simp only [List.countP_eq_zero, List.mem_flatMap, Bool.not_eq_true]
    exact ⟨fun none call made operand unread => none operand ⟨call, made, unread⟩,
      fun none operand ⟨call, made, unread⟩ => none call made operand unread⟩
  rw [exclusive_iff_length ok]
  constructor
  · intro exclusive statement calls reads
    have counted := length_events_of_reading reads ok
    exact lossless.mp (by omega)
  · intro kept
    obtain ⟨statement, calls, reads⟩ := exists_reading ok
    rw [length_events_of_reading reads ok, lossless.mpr (kept statement calls reads), Nat.add_zero]

/-- Here `print` speaks to the console, and its empty result is not read by `max`. -/
theorem exists_lost_print :
    ∃ statement calls,
      Reading ⟨fresh.bindings, fun _ => .nan⟩ "max(0/0, print(1))" statement calls ∧
        ∃ call ∈ calls, ∃ operand ∈ call.unread, operand.isNothing = true := by
  have ok : (fresh.evaluate (fun _ => .nan) "max(0/0, print(1))").result =
      .ok (some (.number .nan)) := by decide +kernel
  have both : ¬ (fresh.evaluate (fun _ => .nan) "max(0/0, print(1))").Exclusive := by
    decide +kernel
  have lost := (not_congr (exclusive_iff ok)).mp both
  simp only [Classical.not_forall, Bool.not_eq_false] at lost
  obtain ⟨statement, calls, reads, call, made, operand, unread, empty⟩ := lost
  exact ⟨statement, calls, reads, call, made, operand, unread, empty⟩

/-- The line has a value and yet asks something of the console. -/
theorem evaluate_max_print :
    (fresh.evaluate (fun _ => .nan) "max(0/0, print(1))").result = .ok (some (.number .nan)) ∧
      (fresh.evaluate (fun _ => .nan) "max(0/0, print(1))").events = [.print "1"] ∧
      ¬ (fresh.evaluate (fun _ => .nan) "max(0/0, print(1))").Exclusive :=
  ⟨by decide +kernel, by decide +kernel, by decide +kernel⟩

end Session

end LineCalc
