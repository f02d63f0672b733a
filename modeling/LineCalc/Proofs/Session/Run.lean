import LineCalc.Proofs.Session.Atomic

/-!
# Runs

A run evaluates lines one after another in one session.  A variable holds what was assigned to it
last, and the lines that assign nothing might as well have been left out.
-/

namespace LineCalc

/-- A line with the random numbers that its calls get. -/
structure Input where
  line : String
  noise : Noise

theorem Reading.unique {scope : Scope} {line : String} {statement other : Statement}
    {calls otherCalls : List Call} (reads : Reading scope line statement calls)
    (readsOther : Reading scope line other otherCalls) : statement = other := by
  obtain ⟨effects, tells, _⟩ := reads.exists_tells
  obtain ⟨otherEffects, tellsOther, _⟩ := readsOther.exists_tells
  have accepted := outcome_eq_ok_iff.mpr tells
  rw [outcome_eq_ok_iff.mpr tellsOther] at accepted
  exact (Prod.mk.inj (Except.ok.inj accepted)).1.symm

namespace Session

/-- The evaluations of lines one after another. -/
def run : Session → List Input → List Evaluation
  | _, [] => []
  | session, input :: others =>
      let evaluation := session.evaluate input.noise input.line
      evaluation :: run evaluation.session others

/-- The session after lines. -/
def after : Session → List Input → Session
  | session, [] => session
  | session, input :: others => after (session.evaluate input.noise input.line).session others

/-! ## Kinds of lines -/

/-- The line is an assignment to the name, and its value is returned. -/
def Assigns (session : Session) (input : Input) (name : String) (value : Value) : Prop :=
  (∃ (letters : Run isNameChar) (tree : Tree .expression),
    name = String.ofList letters.characters ∧ tree.DerivesAssignment letters input.line) ∧
  (session.evaluate input.noise input.line).result = .ok (some value)

/-- The line fails. -/
def Fails (session : Session) (input : Input) : Prop :=
  ∃ error, (session.evaluate input.noise input.line).result = .error error

/-- The line is an expression, and does not fail. -/
def Answers (session : Session) (input : Input) : Prop :=
  (∃ tree : Tree .expression, tree.Derives input.line) ∧
    ∃ result, (session.evaluate input.noise input.line).result = .ok result

variable {session : Session} {input : Input} {name : String} {value : Value}

theorem assigns_iff : Assigns session input name value ↔
    ∃ calls, Reading ⟨session.bindings, input.noise⟩ input.line (.assignment name value) calls := by
  constructor
  · rintro ⟨⟨letters, tree, rfl, derives⟩, ok⟩
    obtain ⟨statement, calls, reads⟩ := exists_reading ok
    have evaluated := evaluate_of_reading reads
    obtain ⟨effects, tells, _⟩ := reads.exists_tells
    obtain ⟨other, rfl, _⟩ :=
      (outcome_of_derivesAssignment_iff derives).mp (outcome_eq_ok_iff.mpr tells)
    rw [evaluated] at ok
    obtain rfl : other = value := Option.some.inj (Except.ok.inj ok)
    exact ⟨calls, reads⟩
  · rintro ⟨calls, reads⟩
    have evaluated := evaluate_of_reading reads
    refine ⟨?_, by rw [evaluated]; rfl⟩
    cases reads with
    | assignment letters tree derives _ => exact ⟨letters, tree, rfl, derives⟩

/-- A line changes the session if it assigns, and only then. -/
theorem session_evaluate_cases (session : Session) (input : Input) :
    (∃ name value, Assigns session input name value ∧
      (session.evaluate input.noise input.line).session = session.assign name value) ∨
    (∀ name value, ¬ Assigns session input name value) ∧
      (session.evaluate input.noise input.line).session = session := by
  rcases evaluate_cases input.noise session input.line with ⟨error, evaluated⟩ |
    ⟨operand, calls, result, reads, _, evaluated⟩ | ⟨name, value, calls, reads, evaluated⟩
  · refine .inr ⟨fun name value assigns => ?_, by rw [evaluated]⟩
    have ok := assigns.2
    rw [evaluated] at ok
    exact absurd ok (by simp)
  · refine .inr ⟨fun name value assigns => ?_, by rw [evaluated]⟩
    obtain ⟨otherCalls, readsOther⟩ := assigns_iff.mp assigns
    exact absurd (reads.unique readsOther) (by simp)
  · exact .inl ⟨name, value, assigns_iff.mpr ⟨calls, reads⟩, by rw [evaluated]⟩

theorem Assigns.unique {other : String} {otherValue : Value}
    (assigns : Assigns session input name value)
    (assignsOther : Assigns session input other otherValue) :
    name = other ∧ value = otherValue := by
  obtain ⟨calls, reads⟩ := assigns_iff.mp assigns
  obtain ⟨otherCalls, readsOther⟩ := assigns_iff.mp assignsOther
  exact Statement.assignment.inj (reads.unique readsOther)

theorem get?_evaluate : (session.evaluate input.noise input.line).session.get? name = some value ↔
    Assigns session input name value ∨
      (∀ other, ¬ Assigns session input name other) ∧ session.get? name = some value := by
  rcases session_evaluate_cases session input with ⟨target, content, assigns, changed⟩ |
    ⟨nothing, same⟩
  · rw [changed, get?, assign, Bindings.get?_insert]
    by_cases here : name = target
    · subst here
      rw [if_pos rfl]
      constructor
      · intro held
        obtain rfl := Option.some.inj held
        exact .inl assigns
      · rintro (assignsValue | ⟨none, _⟩)
        · rw [(assigns.unique assignsValue).2]
        · exact absurd assigns (none content)
    · rw [if_neg here]
      have none : ∀ other, ¬ Assigns session input name other :=
        fun other assignsName => here (assignsName.unique assigns).1
      exact ⟨fun kept => .inr ⟨none, kept⟩,
        fun either => either.elim (fun assignsName => absurd assignsName (none value)) And.right⟩
  · rw [same]
    exact ⟨fun kept => .inr ⟨nothing name, kept⟩,
      fun either => either.elim (fun assigns => absurd assigns (nothing name value)) And.right⟩

/-! ## Last assignments -/

/-- No line assigns to the name. -/
def Unassigned (session : Session) (inputs : List Input) (name : String) : Prop :=
  ∀ before input later, inputs = before ++ input :: later →
    ∀ value, ¬ Assigns (session.after before) input name value

/-- Some line assigns the value to the name, and no later line assigns to the name. -/
def LastAssigned (session : Session) (inputs : List Input) (name : String) (value : Value) : Prop :=
  ∃ before input later, inputs = before ++ input :: later ∧
    Assigns (session.after before) input name value ∧
    Unassigned (session.after (before ++ [input])) later name

variable {inputs : List Input}

theorem unassigned_cons : Unassigned session (input :: inputs) name ↔
    (∀ value, ¬ Assigns session input name value) ∧
      Unassigned (session.evaluate input.noise input.line).session inputs name := by
  constructor
  · intro unassigned
    refine ⟨unassigned [] input inputs rfl, fun before other later split => ?_⟩
    exact unassigned (input :: before) other later (by rw [split]; rfl)
  · rintro ⟨first, rest⟩ before other later split
    rcases List.cons_eq_append_iff.mp split with ⟨rfl, same⟩ | ⟨front, rfl, onward⟩
    · obtain ⟨rfl, rfl⟩ := List.cons.inj same
      exact first
    · exact rest front other later onward

theorem lastAssigned_cons : LastAssigned session (input :: inputs) name value ↔
    LastAssigned (session.evaluate input.noise input.line).session inputs name value ∨
      Assigns session input name value ∧
        Unassigned (session.evaluate input.noise input.line).session inputs name := by
  constructor
  · rintro ⟨before, other, later, split, assigns, unassigned⟩
    rcases List.cons_eq_append_iff.mp split with ⟨rfl, same⟩ | ⟨front, rfl, onward⟩
    · obtain ⟨rfl, rfl⟩ := List.cons.inj same
      exact .inr ⟨assigns, unassigned⟩
    · exact .inl ⟨front, other, later, onward, assigns, unassigned⟩
  · rintro (⟨before, other, later, split, assigns, unassigned⟩ | ⟨assigns, unassigned⟩)
    · exact ⟨input :: before, other, later, by rw [split]; rfl, assigns, unassigned⟩
    · exact ⟨[], input, inputs, rfl, assigns, unassigned⟩

/-- A variable holds what was assigned to it last, and what it held before if nothing was. -/
theorem get?_after : (session.after inputs).get? name = some value ↔
    LastAssigned session inputs name value ∨
      Unassigned session inputs name ∧ session.get? name = some value := by
  induction inputs generalizing session with
  | nil =>
      have never : ¬ LastAssigned session [] name value := by
        rintro ⟨before, input, later, split, _⟩
        simp at split
      have unassigned : Unassigned session [] name := by
        intro before input later split
        simp at split
      simp [after, never, unassigned]
  | cons input inputs ih =>
      -- A later line assigns last, or this one does, or none does and the old value is kept.
      rw [after, ih, lastAssigned_cons, unassigned_cons, get?_evaluate]
      grind

/-! ## Lines that can be left out -/

/-- What the mask keeps of a list: everything but the places at which it is false. -/
def keep {α : Type} : List Bool → List α → List α
  | true :: mask, element :: others => element :: keep mask others
  | false :: mask, _ :: others => keep mask others
  | [], elements => elements
  | _, [] => []

@[simp]
theorem keep_nil {α : Type} (mask : List Bool) : keep mask ([] : List α) = [] := by
  rcases mask with _ | ⟨_ | _, mask⟩ <;> rfl

theorem session_evaluate_of_fails (fails : Fails session input) :
    (session.evaluate input.noise input.line).session = session := by
  obtain ⟨error, failed⟩ := fails
  rcases session_evaluate_cases session input with ⟨_, _, assigns, _⟩ | ⟨_, same⟩
  · rw [assigns.2] at failed
    exact absurd failed (by simp)
  · exact same

theorem session_evaluate_of_answers (answers : Answers session input) :
    (session.evaluate input.noise input.line).session = session := by
  obtain ⟨⟨tree, derives⟩, _⟩ := answers
  rcases session_evaluate_cases session input with ⟨_, _, ⟨⟨letters, _, _, assigns⟩, _⟩, _⟩ |
    ⟨_, same⟩
  · exact absurd assigns (derives.not_derivesAssignment letters)
  · exact same

/-- The lines that are left out fail or only answer. -/
def Dispensable (session : Session) (inputs : List Input) (mask : List Bool) : Prop :=
  ∀ before input later, inputs = before ++ input :: later → mask[before.length]? = some false →
    Fails (session.after before) input ∨ Answers (session.after before) input

/-- Without the lines that are left out, the others come to the same, and so does the session. -/
theorem run_keep {mask : List Bool} (dispensable : Dispensable session inputs mask) :
    session.run (keep mask inputs) = keep mask (session.run inputs) ∧
      session.after (keep mask inputs) = session.after inputs := by
  induction inputs generalizing session mask with
  | nil => simp [run]
  | cons input inputs ih =>
      have rest {kept : Bool} {others : List Bool} (here : mask = kept :: others) :
          Dispensable (session.evaluate input.noise input.line).session inputs others := by
        intro before other later split deleted
        refine dispensable (input :: before) other later (by rw [split]; rfl) ?_
        rw [here]
        exact deleted
      match mask with
      | [] => exact ⟨rfl, rfl⟩
      | true :: mask =>
          obtain ⟨sameRun, sameAfter⟩ := ih (rest rfl)
          exact ⟨congrArg _ sameRun, sameAfter⟩
      | false :: mask =>
          have same : (session.evaluate input.noise input.line).session = session := by
            rcases dispensable [] input inputs rfl rfl with fails | answers
            · exact session_evaluate_of_fails fails
            · exact session_evaluate_of_answers answers
          obtain ⟨sameRun, sameAfter⟩ := ih (rest rfl)
          rw [same] at sameRun sameAfter
          simp only [keep, run, after, same]
          exact ⟨sameRun, sameAfter⟩

/-! ## Names as lines -/

theorem reading_name {letters : Run isNameChar}
    (bound : session.get? (String.ofList letters.characters) = some value) (noise : Noise) :
    Reading ⟨session.bindings, noise⟩ (String.ofList letters.characters)
      (.expression (.value value)) [] := by
  let tree : Tree .expression := .term (.factor (.name letters))
  have derives : tree.Derives (String.ofList letters.characters) := by
    refine ⟨[] ++ letters.characters ++ [], [], ?_, .cons (.name letters) .nil .nil, .nil⟩
    simp
  exact .expression tree derives (.term (.factor (.bound Effects.none bound)))

/-- A line that is the name of a variable answers with its value. -/
theorem evaluate_name {letters : Run isNameChar} (noise : Noise)
    (bound : session.get? (String.ofList letters.characters) = some value) :
    session.evaluate noise (String.ofList letters.characters) =
      ⟨.ok (some value), [], session⟩ :=
  evaluate_of_reading (reading_name bound noise)

/-- After a run of a fresh session, a variable holds what the last successful assignment to it
returned, and no other name holds anything.  The names of variables are made of letters and
underscores, and such a name as a line answers with the value.  The lines that failed or answered
can be left out: the others come to the same, and so does the session. -/
theorem after_run (inputs : List Input) :
    (∀ name value, (fresh.after inputs).get? name = some value ↔
      LastAssigned fresh inputs name value) ∧
    (∀ name value, (fresh.after inputs).get? name = some value →
      name ≠ "" ∧ (∀ character ∈ name.toList, isNameChar character = true) ∧
        ∀ noise, (fresh.after inputs).evaluate noise name =
          ⟨.ok (some value), [], fresh.after inputs⟩) ∧
    ∀ mask, Dispensable fresh inputs mask →
      fresh.run (keep mask inputs) = keep mask (fresh.run inputs) ∧
        fresh.after (keep mask inputs) = fresh.after inputs := by
  have held {name : String} {value : Value} :
      (fresh.after inputs).get? name = some value ↔ LastAssigned fresh inputs name value := by
    rw [get?_after]
    simp [fresh, get?]
  refine ⟨fun name value => held, fun name value bound => ?_, fun mask => run_keep⟩
  obtain ⟨_, _, _, _, ⟨⟨letters, _, rfl, _⟩, _⟩, _⟩ := held.mp bound
  refine ⟨?_, ?_, fun noise => evaluate_name noise bound⟩
  · intro empty
    have nothing : letters.characters = [] := by simpa using congrArg String.toList empty
    exact letters.nonempty nothing
  · rw [String.toList_ofList]
    exact letters.all

end Session

end LineCalc
