import LineCalc.Proofs.Console.Run

/-!
# Scripts on a console

A script comes to what its lines come to when a console is given them one after another, up to the
first line that fails.  The console only adds the lines themselves and their values to what is
shown.
-/

namespace LineCalc

/-- A line that fails asks for nothing. -/
theorem Session.events_of_error {noise : Noise} {session : Session} {line : String}
    {error : EvalError} (failed : (session.evaluate noise line).result = .error error) :
    (session.evaluate noise line).events = [] := by
  rcases evaluate_cases noise session line with ⟨_, evaluated⟩ | ⟨_, _, _, _, _, evaluated⟩ |
    ⟨_, _, _, _, evaluated⟩
  · rw [evaluated]
  · exact absurd (congrArg Evaluation.result evaluated ▸ failed) (by simp)
  · exact absurd (congrArg Evaluation.result evaluated ▸ failed) (by simp)

def Outcome.error? : Outcome → Option EvalError
  | .error failure => some failure
  | .ignored | .value _ | .nothing | .command => none

def Outcome.value? : Outcome → Option Value
  | .value content => some content
  | .ignored | .nothing | .error _ | .command => none

namespace Console

namespace Response

/-- The error that the line led to. -/
def error? (response : Response) : Option EvalError :=
  response.outcome.bind Outcome.error?

/-- The value that the line led to. -/
def value? (response : Response) : Option Value :=
  response.outcome.bind Outcome.value?

/-- What is shown without the line itself, which comes first, and its value, which comes last. -/
def undecorated (response : Response) : List Event :=
  if response.value?.isSome then response.events.tail.dropLast else response.events.tail

/-- The line is shown first and its value last, and nothing else is left out without them. -/
def Decorates (response : Response) (line : String) : Prop :=
  match response.outcome with
  | some .ignored => response.events = [] ∧ response.undecorated = []
  | some .nothing => response.events = .print ("> " ++ line) :: response.undecorated
  | some (.value content) =>
      response.events = .print ("> " ++ line) :: response.undecorated ++
        [.print ("= " ++ content.display)]
  | _ => False

end Response

/-- The responses before the first one to a line that fails. -/
def beforeError (responses : List Response) : List Response :=
  responses.takeWhile fun response => response.error?.isNone

/-- What a script comes to whose lines are answered like this: the first error, or the last value,
which is an earlier one if the lines have none. -/
def report (latest : Option Value) (responses : List Response) : Script.Report where
  result :=
    match responses.findSome? Response.error? with
    | some error => .error error
    | none => .ok ((responses.filterMap Response.value?).getLast?.or latest)
  events := (beforeError responses).flatMap Response.undecorated

section Report

variable {latest : Option Value} {response : Response} {others : List Response}

theorem beforeError_cons_of_error {error : EvalError} (fails : response.error? = some error) :
    beforeError (response :: others) = [] := by
  simp [beforeError, fails]

theorem beforeError_cons_of_none (fine : response.error? = none) :
    beforeError (response :: others) = response :: beforeError others := by
  simp [beforeError, fine]

theorem report_cons_of_error {error : EvalError} (fails : response.error? = some error) :
    report latest (response :: others) = ⟨.error error, []⟩ := by
  simp [report, beforeError_cons_of_error fails, fails]

theorem report_cons_of_none (fine : response.error? = none) :
    report latest (response :: others) =
      let rest := report (response.value?.or latest) others
      ⟨rest.result, response.undecorated ++ rest.events⟩ := by
  have first : (response :: others).findSome? Response.error? =
      others.findSome? Response.error? := by
    simp [fine]
  have last : ((response :: others).filterMap Response.value?).getLast?.or latest =
      (others.filterMap Response.value?).getLast?.or (response.value?.or latest) := by
    cases found : response.value? with
    | none => rw [List.filterMap_cons_none found, Option.none_or]
    | some content =>
        rw [List.filterMap_cons_some found, List.getLast?_cons]
        cases (others.filterMap Response.value?).getLast? <;> rfl
  simp only [report, first, beforeError_cons_of_none fine, last, List.flatMap_cons]

end Report

theorem undecorated_of_shows {result : Option Value} {outcome : Outcome} {shown : List Event}
    (shows : Shows (.ok result) outcome shown) (line : String) (events : List Event)
    (console : Console) :
    let response : Response := ⟨some outcome, .print ("> " ++ line) :: events ++ shown, console⟩
    response.error? = none ∧ response.value? = result ∧ response.undecorated = events ∧
      response.Decorates line := by
  cases shows with
  | value content =>
      simp [Response.error?, Response.value?, Response.undecorated, Response.Decorates,
        Outcome.error?, Outcome.value?]
  | nothing =>
      simp [Response.error?, Response.value?, Response.undecorated, Response.Decorates,
        Outcome.error?, Outcome.value?]

/-- The three ways in which a console without timing can take a line that is no command. -/
theorem respond_untimed_cases {line : String} (plain : ∀ timed, ¬ Commands line timed)
    (session : Session) (noise : Noise) (nanoseconds : Nat) :
    let evaluation := session.evaluate noise line
    let response := (Console.mk session false).respond (.submit ⟨line, noise⟩ nanoseconds)
    (isBlankLine line = true ∧ response = ⟨some .ignored, [], ⟨session, false⟩⟩) ∨
      isBlankLine line = false ∧ response.console = ⟨evaluation.session, false⟩ ∧
        ((∃ error, evaluation.result = .error error ∧ evaluation.events = [] ∧
            response.error? = some error) ∨
          ∃ result, evaluation.result = .ok result ∧ response.error? = none ∧
            response.value? = result ∧ response.undecorated = evaluation.events ∧
            response.Decorates line) := by
  intro evaluation response
  by_cases blank : Blank line.toList
  · refine .inl ⟨isBlankLine_iff.mpr blank, ?_⟩
    simp only [response, respond, submit_of_blank blank]
    rfl
  · have evaluable : Evaluable line := ⟨blank, plain⟩
    have responds : response = ⟨some (outcome evaluation.result),
        .print ("> " ++ line) :: evaluation.events ++ notice (outcome evaluation.result),
        ⟨evaluation.session, false⟩⟩ :=
      (respond_of_evaluable evaluable).trans (by simp [evaluation, timing])
    refine .inr ⟨Bool.eq_false_iff.mpr (not_congr isBlankLine_iff |>.mpr blank), ?_⟩
    rw [responds]
    refine ⟨rfl, ?_⟩
    cases came : evaluation.result with
    | error error =>
        exact .inl ⟨error, rfl, Session.events_of_error came, rfl⟩
    | ok result =>
        have shows := shows_notice evaluation.result
        rw [came] at shows
        exact .inr ⟨result, rfl, undecorated_of_shows shows line _ _⟩

end Console

namespace Script

open Console

variable {noises : Nat → Noise} {durations : Nat → Nat} {session : Session} {count : Nat}
variable {lines : List String}

theorem evaluateFrom_eq (latest : Option Value)
    (plain : ∀ line ∈ lines, ∀ timed, ¬ Commands line timed) :
    evaluateFrom noises session latest count lines =
      report latest
        ((Console.mk session false).run (submissions noises durations count lines)) := by
  induction lines generalizing session latest count with
  | nil => rfl
  | cons line others ih =>
      obtain ⟨here, behind⟩ := List.forall_mem_cons.mp plain
      rw [evaluateFrom, submissions, run]
      rcases respond_untimed_cases here session (noises count) (durations count) with
        ⟨blank, ignored⟩ | ⟨visible, after, ⟨error, failed, nothing, error?⟩ |
          ⟨result, ok, error?, value?, asked, _⟩⟩
      · rw [if_pos blank, ignored, ih _ behind]
        rfl
      · rw [if_neg (Bool.eq_false_iff.mp visible), report_cons_of_error error?]
        simp only [failed, nothing]
      · have choice : (result <|> latest) = result.or latest := by cases result <;> rfl
        rw [if_neg (Bool.eq_false_iff.mp visible), report_cons_of_none error?, after, value?, asked]
        simp only [ok, ih _ behind, choice]

/-- Up to the first line that fails, a console shows the lines themselves and their values, and
otherwise what is asked for. -/
theorem decorates_of_mem_zip (plain : ∀ line ∈ lines, ∀ timed, ¬ Commands line timed) :
    let responses := (Console.mk session false).run (submissions noises durations count lines)
    ∀ line response, (line, response) ∈ lines.zip (beforeError responses) →
      response.Decorates line := by
  induction lines generalizing session count with
  | nil => simp
  | cons first others ih =>
      obtain ⟨here, behind⟩ := List.forall_mem_cons.mp plain
      rw [submissions, run]
      have cases := respond_untimed_cases here session (noises count) (durations count)
      generalize (Console.mk session false).respond _ = answer at cases ⊢
      obtain ⟨error, fails⟩ | ⟨fine, decorates, next, moved⟩ :
          (∃ error, answer.error? = some error) ∨
            answer.error? = none ∧ answer.Decorates first ∧
              ∃ next, answer.console = ⟨next, false⟩ := by
        rcases cases with ⟨_, rfl⟩ |
          ⟨_, after, ⟨error, _, _, fails⟩ | ⟨_, _, fine, _, _, decorates⟩⟩
        · exact .inr ⟨rfl, ⟨rfl, rfl⟩, session, rfl⟩
        · exact .inl ⟨error, fails⟩
        · exact .inr ⟨fine, decorates, _, after⟩
      · simp [beforeError_cons_of_error fails]
      · intro responses line response member
        simp only [responses, beforeError_cons_of_none fine, List.zip_cons_cons, List.mem_cons,
          Prod.mk.injEq, moved] at member
        rcases member with ⟨rfl, rfl⟩ | later
        · exact decorates
        · exact ih behind line response later

/-- A script without commands comes to what its lines come to on a fresh console: it fails with the
first error, and has the last value if no line fails.  It asks for what the console shows before
that error, but for the lines themselves and their values. -/
theorem evaluate_eq_submissions (noises : Nat → Noise) (durations : Nat → Nat) (source : String)
    (plain : ∀ line ∈ Script.lines source, ∀ timed, ¬ Commands line timed) :
    let responses :=
      (Console.fresh false).run (submissions noises durations 0 (Script.lines source))
    (evaluate noises source).result =
        (match responses.findSome? Response.error? with
          | some error => .error error
          | none => .ok (responses.filterMap Response.value?).getLast?) ∧
      (evaluate noises source).events =
        (beforeError responses).flatMap Response.undecorated ∧
      ∀ line response, (line, response) ∈ (Script.lines source).zip (beforeError responses) →
        response.Decorates line := by
  intro responses
  have same : evaluate noises source = report none responses := evaluateFrom_eq none plain
  refine ⟨?_, congrArg Report.events same, decorates_of_mem_zip plain⟩
  simpa [report] using congrArg Report.result same

/-- Here a line without a value comes after one with a value, and the line that fails looks like a
command. -/
theorem evaluate_eq_submissions_colon :
    let source := "x = 2\n\nprint(x)\r\n:time\nx"
    (∀ line ∈ Script.lines source, ∀ timed, ¬ Commands line timed) ∧
      (evaluate (fun _ _ => .nan) source).result = .error (.malformed (.expectedNumber 0)) ∧
      (evaluate (fun _ _ => .nan) source).events = [.print "2"] := by
  intro source
  have plain : ∀ line ∈ Script.lines source, ∀ timed, ¬ Commands line timed := by decide +kernel
  obtain ⟨result, events, _⟩ :=
    evaluate_eq_submissions (fun _ _ => .nan) (fun _ => 0) source plain
  exact ⟨plain, result.trans (by decide +kernel), events.trans (by decide +kernel)⟩

end Script

end LineCalc
