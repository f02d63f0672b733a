import LineCalc.Proofs.Console.Run
import LineCalc.Proofs.Session.Inlining
import Mathlib.Data.List.Forall2

/-!
# Ways to show a value

A value is shown by a console that is given an expression for it, by a call of `print`, among other
arguments or alone, and as part of a text with which it is summed up.  The characters are the same,
as an expression means the same on a line of its own, between commas and in parentheses.
-/

namespace LineCalc

/-! ## Lines as parts of lines -/

variable {source : String} {token : Token} {tokens others : List Token} {text : List Char}

/-- What follows the tokens of a line follows its blanks, too. -/
theorem IsLine.spelled_append (isLine : IsLine source tokens)
    (spelled : Spelled (token :: others) text) :
    Spelled (tokens ++ token :: others) (source.toList ++ text) := by
  obtain ⟨written, blanks, split, begun, blank⟩ := isLine
  rw [split, List.append_assoc]
  exact begun.append (spelled.behind blank)

/-- Two lines with a comma between them. -/
theorem IsLine.spelled_comma {other : String} (isLine : IsLine source tokens)
    (next : IsLine other (token :: others)) :
    IsLine (source ++ ", " ++ other) (tokens ++ .symbol ',' :: token :: others) := by
  obtain ⟨written, blanks, split, spelled, blank⟩ := next
  have space : Blank [' '] := by decide
  refine ⟨_, blanks, ?_, isLine.spelled_append (.cons (.symbol ',') .nil (spelled.behind space)),
    blank⟩
  simp [split, Token.characters]

/-- A line that begins with a visible token is not blank. -/
theorem IsLine.not_blank (isLine : IsLine source (token :: others)) (visible : token.Visible) :
    ¬ Blank source.toList := by
  obtain ⟨_, _, split, spelled, _⟩ := isLine
  obtain ⟨first, rest, characters, shown⟩ := visible
  intro blank
  cases spelled with
  | cons _ _ _ =>
      have hidden : Text.isBlank first = true := blank first (by simp [split, characters])
      rw [hidden] at shown
      exact absurd shown (by decide)

theorem Tree.Derives.not_blank {tree : Tree .expression} (derives : tree.Derives source) :
    ¬ Blank source.toList := by
  obtain ⟨token, others, split, visible, _⟩ := (tree.begins (by simp)).exists_cons
  rw [Tree.Derives, split] at derives
  exact IsLine.not_blank derives visible

/-- What `print` shows of values. -/
theorem Builtin.call_print {noise : Noise} (values : List Value) (effects : Effects) :
    Builtin.print.call noise (values.map .value) effects =
      .ok (.nothing .print,
        effects.record (.print (" ".intercalate (values.map Value.display)))) := by
  have checked : (values.map Operand.value).mapM Operand.asValue = .ok values :=
    Operand.mapM_asValue_eq_ok_iff.mpr rfl
  have text : joined (values.map .value) = .ok (" ".intercalate (values.map Value.display)) := by
    rw [joined, checked]
    rfl
  change (joined (values.map .value) >>= _) = _
  rw [text]
  rfl

namespace Session

variable {session : Session} {noise : Noise} {value : Value} {sources : List String}
  {values : List Value}

/-! ## Texts that stand for values -/

/-- The text stands for the value: it is an expression that gives the value as a line, without
asking anything of the console and without drawing random numbers, or the name of a variable that
holds it. -/
inductive Denotes (session : Session) : String → Value → Prop
  | line {noise : Noise} {source : String} {operand : Operand} {calls : List Call}
      {value : Value} :
      Reading ⟨session.bindings, noise⟩ source (.expression operand) calls →
      (∀ call ∈ calls, call.builtin ≠ .rand) →
      session.evaluate noise source = ⟨.ok (some value), [], session⟩ →
      Denotes session source value
  | name (letters : Run isNameChar) {value : Value} :
      session.get? (String.ofList letters.characters) = some value →
      Denotes session (String.ofList letters.characters) value

theorem outcome_eq_some {operand : Operand} (is : outcome operand = .ok (some value)) :
    operand = .value value := by
  cases operand with
  | value content => exact congrArg Operand.value (Option.some.inj (Except.ok.inj is))
  | function builtin | nothing builtin => simp [outcome, Operand.asValue, pure, Except.pure] at is

/-- The random numbers that would be drawn do not matter. -/
theorem Denotes.gives (denotes : session.Denotes source value) (noise : Noise) :
    session.Gives noise source value := by
  cases denotes with
  | name letters held => exact ⟨[], reading_name held noise, by simp⟩
  | @line _ _ operand calls _ reads undrawn evaluated =>
      rw [evaluate_of_reading reads, accepted] at evaluated
      cases shown : outcome operand with
      | error error => simp [shown] at evaluated
      | ok result =>
          rw [shown] at evaluated
          obtain ⟨given, asked, _⟩ := Evaluation.mk.inj evaluated
          obtain rfl := Except.ok.inj given
          obtain rfl := outcome_eq_some shown
          cases reads with
          | expression tree derives evaluates =>
              refine ⟨calls, .expression tree derives (evaluates.of_undrawn undrawn noise), ?_⟩
              intro call member
              exact ⟨undrawn call member, List.flatMap_eq_nil_iff.mp asked call member⟩

theorem evaluate_of_meaning {tree : Tree .expression} {operand : Operand} {effects : Effects}
    (derives : tree.Derives source)
    (means : tree.meaning ⟨session.bindings, noise⟩ Effects.none = .ok (operand, effects)) :
    session.evaluate noise source = session.accepted effects.events (.expression operand) := by
  rw [Session.evaluate_eq, outcome_eq_ok_iff.mpr (.expression tree derives means)]

/-! ## On a line of its own -/

theorem Gives.evaluate_eq (gives : session.Gives noise source value) :
    session.evaluate noise source = ⟨.ok (some value), [], session⟩ := by
  obtain ⟨calls, reads, quiet⟩ := gives
  have silent : calls.flatMap Call.events = [] :=
    List.flatMap_eq_nil_iff.mpr fun call member => (quiet call member).2
  rw [evaluate_of_reading reads, silent]
  rfl

/-- An expression that gives a value is neither blank nor a command. -/
theorem Gives.evaluable (gives : session.Gives noise source value) :
    Console.Evaluable source := by
  constructor
  · obtain ⟨tree, derives, _⟩ := gives.exists_tree
    exact derives.not_blank
  · intro timed commands
    have evaluated := gives.evaluate_eq
    rw [Console.Commands] at commands
    generalize split : source.toList = written at commands
    cases commands with
    | cons blank _ _ _ _ =>
        have colon : ":time".toList = ':' :: "time".toList := by decide
        rw [colon, List.append_assoc, List.cons_append] at split
        rw [evaluate_of_colon noise session blank split] at evaluated
        simp at evaluated

theorem Gives.submit_eq (gives : session.Gives noise source value) (timed : Bool) :
    Console.submit noise ⟨session, timed⟩ source =
      ⟨.value value, [.print ("> " ++ source), .print ("= " ++ value.display)], timed,
        ⟨session, timed⟩⟩ := by
  rw [Console.submit_of_evaluable gives.evaluable, gives.evaluate_eq]
  rfl

/-! ## In parentheses -/

/-- A sum of the empty text with an expression is the text by which the value is shown. -/
theorem Gives.evaluate_joined (gives : session.Gives noise source value) :
    session.evaluate noise ("\"\" + (" ++ source ++ ")") =
      ⟨.ok (some (.text value.display)), [], session⟩ := by
  obtain ⟨content, derives, means⟩ := gives.exists_tree
  let tree : Tree .expression :=
    .additive (.term (.factor (.text [] (by simp)))) '+' .add rfl (.factor (.group content))
  have space : Blank [' '] := by decide
  have spelled : Spelled tree.tokens ([] ++ ['"', '"'] ++ ([' '] ++ ['+'] ++
      ([' '] ++ '(' :: (source.toList ++ [')'])))) :=
    .cons (.text [] (by simp)) .nil (.cons (.symbol '+') space (derives.spelled_group.behind space))
  have derived : tree.Derives ("\"\" + (" ++ source ++ ")") := by
    refine ⟨_, [], ?_, spelled, .nil⟩
    simp
  have left : (Tree.term (.factor (.text [] (by simp)))).meaning ⟨session.bindings, noise⟩
      Effects.none = .ok (.value (.text ""), Effects.none) := rfl
  have right : (Tree.factor (.group content)).meaning ⟨session.bindings, noise⟩
      Effects.none = .ok (.value value, Effects.none) := congrFun means Effects.none
  have sum : tree.meaning ⟨session.bindings, noise⟩ Effects.none =
      .ok (.value (Value.add (.text "") value), Effects.none) :=
    Meaning.combine_of_ok left right rfl rfl
  have text : Value.add (.text "") value = .text value.display := by
    cases value <;> simp [Value.add, Value.display]
  rw [evaluate_of_meaning derived sum, text]
  rfl

/-! ## Among arguments -/

theorem exists_list (gives : session.Gives noise source value)
    (others : List.Forall₂ (session.Gives noise) sources values) :
    ∃ tree : Tree .list, IsLine (", ".intercalate (source :: sources)) tree.tokens ∧
      tree.meaning ⟨session.bindings, noise⟩ = pure (.value value :: values.map .value) := by
  induction others generalizing source value with
  | nil =>
      obtain ⟨content, derives, means⟩ := gives.exists_tree
      refine ⟨.last content, ?_, ?_⟩
      · rw [String.intercalate_singleton]
        exact derives
      · rw [Tree.meaning, means, pure_bind]
        rfl
  | cons next _ ih =>
      obtain ⟨content, derives, means⟩ := gives.exists_tree
      obtain ⟨tree, isLine, treeMeans⟩ := ih next
      refine ⟨.more content tree, ?_, ?_⟩
      · obtain ⟨_, _, split, _⟩ := (tree.begins (by simp)).exists_cons
        rw [split] at isLine
        rw [String.intercalate_cons_cons, Tree.tokens, split]
        exact IsLine.spelled_comma derives isLine
      · rw [Tree.meaning, means, treeMeans, pure_bind, pure_bind]
        rfl

theorem exists_arguments (all : List.Forall₂ (session.Gives noise) sources values) :
    ∃ tree : Tree .arguments, IsLine (", ".intercalate sources) tree.tokens ∧
      tree.meaning ⟨session.bindings, noise⟩ = pure (values.map .value) := by
  cases all with
  | nil => exact ⟨.empty, ⟨[], [], rfl, .nil, .nil⟩, rfl⟩
  | cons gives others =>
      obtain ⟨tree, isLine, means⟩ := exists_list gives others
      exact ⟨.filled tree, isLine, means⟩

theorem evaluate_print (all : List.Forall₂ (session.Gives noise) sources values) :
    session.evaluate noise ("print(" ++ ", ".intercalate sources ++ ")") =
      ⟨.ok none, [.print (" ".intercalate (values.map Value.display))], session⟩ := by
  obtain ⟨arguments, isLine, means⟩ := exists_arguments all
  let letters : Run isNameChar := ⟨"print".toList, by decide, forall_mem_of_all (by decide)⟩
  let tree : Tree .expression := .term (.factor (.call letters arguments))
  have spelled : Spelled tree.tokens ([] ++ "print".toList ++ ([] ++ ['('] ++
      ((", ".intercalate sources).toList ++ ([] ++ [')'] ++ [])))) :=
    .cons (.name letters) .nil
      (.cons (.symbol '(') .nil (isLine.spelled_append (.cons (.symbol ')') .nil .nil)))
  have derived : tree.Derives ("print(" ++ ", ".intercalate sources ++ ")") := by
    refine ⟨_, [], ?_, spelled, .nil⟩
    simp
  have called : tree.meaning ⟨session.bindings, noise⟩ Effects.none =
      .ok (.nothing .print,
        Effects.none.record (.print (" ".intercalate (values.map Value.display)))) := by
    refine (Meaning.bind_of_ok (congrFun means Effects.none)).trans ?_
    exact Meaning.called_of_ok (by decide) (Builtin.call_print values Effects.none)
  rw [evaluate_of_meaning derived called]
  rfl

/-- However values are shown, each one is shown by the same characters.  The texts that stand for
them can be given to `print` together, be summed up with the empty text or be given to a console. -/
theorem displays_agree (denote : List.Forall₂ session.Denotes sources values) :
    (∀ noise, session.evaluate noise ("print(" ++ ", ".intercalate sources ++ ")") =
      ⟨.ok none, [.print (" ".intercalate (values.map Value.display))], session⟩) ∧
    List.Forall₂ (fun source value => ∀ noise,
      session.evaluate noise ("\"\" + (" ++ source ++ ")") =
          ⟨.ok (some (.text value.display)), [], session⟩ ∧
        ∀ timed, Console.submit noise ⟨session, timed⟩ source =
          ⟨.value value, [.print ("> " ++ source), .print ("= " ++ value.display)], timed,
            ⟨session, timed⟩⟩) sources values := by
  constructor
  · intro noise
    exact evaluate_print (denote.imp fun _ _ denotes => denotes.gives noise)
  · refine denote.imp fun source value denotes noise => ?_
    have gives := denotes.gives noise
    exact ⟨gives.evaluate_joined, gives.submit_eq⟩

/-- A number that is written down, and a text in a variable. -/
theorem displays_agree_two :
    List.Forall₂ (fresh.assign "x" (.text "a")).Denotes ["2", "x"]
        [.number (Double.ofRat false 2), .text "a"] ∧
      (fresh.assign "x" (.text "a")).evaluate (fun _ => .nan) "print(2, x)" =
        ⟨.ok none, [.print "2 a"], fresh.assign "x" (.text "a")⟩ ∧
      (fresh.assign "x" (.text "a")).evaluate (fun _ => .nan) "\"\" + (2)" =
        ⟨.ok (some (.text "2")), [], fresh.assign "x" (.text "a")⟩ := by
  generalize assigned : fresh.assign "x" (.text "a") = session
  let digits : Run Char.isDigit := ⟨['2'], by decide, forall_mem_of_all (by decide)⟩
  let letters : Run isNameChar := ⟨['x'], by decide, forall_mem_of_all (by decide)⟩
  let tree : Tree .expression := .term (.factor (.number digits none))
  have derives : tree.Derives "2" := ⟨_, [], by decide, .cons (.number digits none) .nil .nil, .nil⟩
  have two : (Decimal.ofDigits ['2'] []).toDouble false = Double.ofRat false 2 := by decide +kernel
  have display : (Double.ofRat false 2).display = "2" := by decide +kernel
  have evaluates : Evaluates ⟨session.bindings, fun _ => .nan⟩ tree Effects.none []
      (.value (.number (Double.ofRat false 2))) Effects.none :=
    two ▸ .term (.factor (.number digits none _))
  have reads : Reading ⟨session.bindings, fun _ => .nan⟩ "2"
      (.expression (.value (.number (Double.ofRat false 2)))) [] :=
    .expression tree derives evaluates
  have number : session.Denotes "2" (.number (Double.ofRat false 2)) :=
    .line reads (by simp) (evaluate_of_reading reads)
  have text : session.Denotes "x" (.text "a") :=
    .name letters (by rw [← assigned]; decide)
  have denote : List.Forall₂ session.Denotes ["2", "x"]
      [.number (Double.ofRat false 2), .text "a"] := .cons number (.cons text .nil)
  obtain ⟨printed, shown⟩ := displays_agree denote
  cases shown with
  | cons first _ =>
      have joined := (first fun _ => .nan).1
      have together := printed fun _ => .nan
      simp only [Value.display, display] at joined
      simp only [List.map_cons, List.map_nil, Value.display, display] at together
      exact ⟨denote, together, joined⟩

end Session

end LineCalc
