import LineCalc.Proofs.Decimal.Display
import LineCalc.Proofs.Session.Exclusion
import LineCalc.Proofs.Session.Run

/-!
# Texts as literals

A text has no way to get a quote into it: literals end at the first one, and no number has one in
its text.  Every text that a session comes to can therefore be written as a literal, which stands
for that text in every other session.
-/

namespace LineCalc

/-- Can the value be written as a literal, if it is a text? -/
def Value.Quotable : Value → Prop
  | number _ => True
  | text content => '"' ∉ content.toList

/-- Can the operand be written as a literal, if it is a text? -/
def Operand.Quotable : Operand → Prop
  | value content => content.Quotable
  | function _ | nothing _ => True

/-- All variables that are texts can be written as literals. -/
def Bindings.Quotable (bindings : Bindings) : Prop :=
  ∀ name value, bindings.get? name = some value → value.Quotable

/-! ## Values -/

theorem Numeric.unquoted {text : List Char} (numeric : Numeric text) : '"' ∉ text := by
  intro quote
  have other : ¬ ('"'.isDigit = true ∨ '"' ∈ numberMarks) := by decide
  exact other (numeric '"' quote)

namespace Value

variable {left right : Value}

theorem Quotable.unquoted_display {value : Value} (quotable : value.Quotable) :
    '"' ∉ value.display.toList :=
  match value with
  | number amount => amount.numeric_display.unquoted
  | text _ => quotable

theorem Quotable.add (leftQuotable : left.Quotable) (rightQuotable : right.Quotable) :
    (left.add right).Quotable := by
  have joined : '"' ∉ (left.display ++ right.display).toList := by
    rw [String.toList_append, List.mem_append, not_or]
    exact ⟨leftQuotable.unquoted_display, rightQuotable.unquoted_display⟩
  cases left with
  | text content => exact joined
  | number amount =>
      cases right with
      | text content => exact joined
      | number other => trivial

end Value

theorem Operator.quotable_apply (operator : Operator) {left right : Value}
    (leftQuotable : left.Quotable) (rightQuotable : right.Quotable) :
    (operator.apply left right).Quotable := by
  cases operator with
  | add => exact leftQuotable.add rightQuotable
  | sub | mul | div | rem => trivial

/-- A builtin gives a number or nothing. -/
theorem Builtin.quotable_of_call {noise : Noise} {builtin : Builtin} {arguments : List Operand}
    {before after : Effects} {result : Operand}
    (called : builtin.call noise arguments before = .ok (result, after)) : result.Quotable := by
  obtain ⟨reply, _, carried⟩ := call_eq_ok called
  obtain rfl : _ = result := congrArg Prod.fst carried
  cases reply <;> trivial

/-! ## Lines -/

/-- If the variables can be written as literals, so can whatever is computed from them. -/
theorem Evaluates.quotable {scope : Scope} {category : Category} {tree : Tree category}
    {before after : Effects} {calls : List Call} {result : category.Result}
    (bound : scope.bindings.Quotable) (evaluates : Evaluates scope tree before calls result after) :
    ∀ operand ∈ category.operands result, operand.Quotable := by
  induction evaluates with
  | number | function | minus => exact List.forall_mem_singleton.mpr trivial
  | text content unquoted =>
      have quotable : (Value.text (String.ofList content)).Quotable := by
        rwa [Value.Quotable, String.toList_ofList]
      exact List.forall_mem_singleton.mpr quotable
  | bound _ found => exact List.forall_mem_singleton.mpr (bound _ _ found)
  | call _ _ called _ => exact List.forall_mem_singleton.mpr (Builtin.quotable_of_call called)
  | plus _ ih | group _ ih | factor _ ih | term _ ih | last _ ih | filled _ ih => exact ih
  | multiplicative _ _ leftIh rightIh | additive _ _ leftIh rightIh =>
      exact List.forall_mem_singleton.mpr <| Operator.quotable_apply _
        (leftIh _ List.mem_cons_self) (rightIh _ List.mem_cons_self)
  | more _ _ firstIh othersIh =>
      exact List.forall_mem_cons.mpr ⟨firstIh _ List.mem_cons_self, othersIh⟩
  | empty => exact fun operand member => absurd member List.not_mem_nil

theorem Bindings.Quotable.insert {bindings : Bindings} {value : Value} (bound : bindings.Quotable)
    (quotable : value.Quotable) (name : String) : (bindings.insert name value).Quotable := by
  intro other content found
  rw [get?_insert] at found
  split at found
  · exact Option.some.inj found ▸ quotable
  · exact bound other content found

namespace Session

variable {session : Session} {noise : Noise} {line : String} {content : String}

/-- A line keeps the variables such that they can be written as literals, and returns such a value.
-/
theorem quotable_evaluate (bound : session.bindings.Quotable) (noise : Noise) (line : String) :
    (session.evaluate noise line).session.bindings.Quotable ∧
      ∀ value, (session.evaluate noise line).result = .ok (some value) → value.Quotable := by
  rcases evaluate_cases noise session line with ⟨error, evaluated⟩ |
    ⟨operand, calls, result, reads, shown, evaluated⟩ | ⟨name, value, calls, reads, evaluated⟩
  · rw [evaluated]
    exact ⟨bound, fun value returned => absurd returned (by simp)⟩
  · rw [evaluated]
    refine ⟨bound, fun value returned => ?_⟩
    cases reads with
    | expression tree _ evaluates =>
        have quotable := evaluates.quotable bound operand List.mem_cons_self
        obtain rfl : result = some value := Except.ok.inj returned
        cases operand with
        | value content =>
            obtain rfl : content = value := Option.some.inj (Except.ok.inj shown)
            exact quotable
        | function builtin => exact absurd shown nofun
        | nothing builtin => exact absurd (Except.ok.inj shown) nofun
  · rw [evaluated]
    cases reads with
    | assignment letters tree _ evaluates =>
        have quotable : value.Quotable := evaluates.quotable bound _ List.mem_cons_self
        refine ⟨bound.insert quotable _, fun other returned => ?_⟩
        exact Option.some.inj (Except.ok.inj returned) ▸ quotable

/-- So does a run. -/
theorem quotable_run (bound : session.bindings.Quotable) (inputs : List Input) :
    (session.after inputs).bindings.Quotable ∧
      ∀ evaluation ∈ session.run inputs, ∀ value, evaluation.result = .ok (some value) →
        value.Quotable := by
  induction inputs generalizing session with
  | nil => exact ⟨bound, by simp [run]⟩
  | cons input others ih =>
      obtain ⟨kept, returned⟩ := quotable_evaluate bound input.noise input.line
      obtain ⟨keptAfter, returnedAfter⟩ := ih kept
      exact ⟨keptAfter, List.forall_mem_cons.mpr ⟨returned, returnedAfter⟩⟩

/-! ## Literals -/

theorem evaluate_literal (unquoted : '"' ∉ content.toList) (noise : Noise) (session : Session) :
    session.evaluate noise ("\"" ++ content ++ "\"") =
      ⟨.ok (some (.text content)), [], session⟩ := by
  let tree : Tree .expression := .term (.factor (.text content.toList unquoted))
  have derives : tree.Derives ("\"" ++ content ++ "\"") := by
    refine ⟨_, [], ?_, .cons (.text content.toList unquoted) .nil .nil, .nil⟩
    simp [Token.characters]
  have reads : Reading ⟨session.bindings, noise⟩ ("\"" ++ content ++ "\"")
      (.expression (.value (.text (String.ofList content.toList)))) [] :=
    .expression tree derives (.term (.factor (.text _ unquoted _)))
  rw [evaluate_of_reading reads, String.ofList_toList]
  rfl

theorem evaluate_assign_literal (unquoted : '"' ∉ content.toList) (letters : Run isNameChar)
    (noise : Noise) (session : Session) :
    session.evaluate noise (String.ofList letters.characters ++ " = \"" ++ content ++ "\"") =
      ⟨.ok (some (.text content)), [],
        session.assign (String.ofList letters.characters) (.text content)⟩ := by
  let tree : Tree .expression := .term (.factor (.text content.toList unquoted))
  have derives : tree.DerivesAssignment letters
      (String.ofList letters.characters ++ " = \"" ++ content ++ "\"") := by
    have blank : Blank [' '] := by decide
    refine ⟨_, [], ?_, .cons (.name letters) .nil (.cons (.symbol '=') blank
      (.cons (.text content.toList unquoted) blank .nil)), .nil⟩
    simp [Token.characters]
  have reads : Reading ⟨session.bindings, noise⟩
      (String.ofList letters.characters ++ " = \"" ++ content ++ "\"")
      (.assignment (String.ofList letters.characters)
        (.text (String.ofList content.toList))) [] :=
    .assignment letters tree derives (.term (.factor (.text _ unquoted _)))
  rw [evaluate_of_reading reads, String.ofList_toList]
  rfl

/-- No text that a run of a fresh session stores or returns has a quote in it.  Put between quotes, it
is a line that returns it in every session, and asks nothing of the console; so does the assignment
of that literal to a name, which makes the text the value of the name. -/
theorem reached_text_is_literal (inputs : List Input) (content : String)
    (reached : (∃ name, (fresh.after inputs).get? name = some (.text content)) ∨
      ∃ evaluation ∈ fresh.run inputs, evaluation.result = .ok (some (.text content))) :
    '"' ∉ content.toList ∧
      ∀ (noise : Noise) (session : Session),
        session.evaluate noise ("\"" ++ content ++ "\"") =
            ⟨.ok (some (.text content)), [], session⟩ ∧
          ∀ letters : Run isNameChar,
            let name := String.ofList letters.characters
            let evaluation := session.evaluate noise (name ++ " = \"" ++ content ++ "\"")
            evaluation.result = .ok (some (.text content)) ∧ evaluation.events = [] ∧
              ∀ other, evaluation.session.get? other =
                if other = name then some (.text content) else session.get? other := by
  have nothing : fresh.bindings.Quotable := by
    intro name value found
    exact absurd found (by simp [fresh])
  obtain ⟨stored, returned⟩ := quotable_run nothing inputs
  have unquoted : '"' ∉ content.toList := by
    rcases reached with ⟨name, found⟩ | ⟨evaluation, member, result⟩
    · exact stored name _ found
    · exact returned evaluation member _ result
  refine ⟨unquoted, fun noise session => ⟨evaluate_literal unquoted noise session, ?_⟩⟩
  intro letters name evaluation
  have evaluated : evaluation = _ := evaluate_assign_literal unquoted letters noise session
  rw [evaluated]
  exact ⟨rfl, rfl, fun other => session.bindings.get?_insert _ other _⟩

/-- Here the text is joined from a literal with a backslash and a number, and kept by a line that
comes before one that fails. -/
theorem joined_text_is_literal :
    let noise : Noise := fun _ => .nan
    let inputs : List Input := [⟨"x = \"a\\\" + 2", noise⟩, ⟨"x + \"", noise⟩]
    (fresh.after inputs).get? "x" = some (.text "a\\2") ∧
      fresh.evaluate noise "\"a\\2\"" = ⟨.ok (some (.text "a\\2")), [], fresh⟩ := by
  intro noise inputs
  have stored : (fresh.after inputs).get? "x" = some (.text "a\\2") := by decide +kernel
  have literal := (reached_text_is_literal inputs "a\\2" (.inl ⟨"x", stored⟩)).2 noise fresh
  exact ⟨stored, literal.1⟩

end Session

end LineCalc
