import LineCalc.Proofs.Console.Command
import LineCalc.Proofs.Event
import LineCalc.Proofs.Session.Run

/-!
# Runs of a console

A console is given lines, is told to turn timing on or off, and is told to greet, one after another.
Whatever comes between, the lines that are evaluated come to what they would come to one after
another in a bare session.
-/

namespace LineCalc

namespace Console

/-- What a console can be asked for.  The evaluation of a line takes some time. -/
inductive Request where
  | submit (input : Input) (nanoseconds : Nat)
  | setTimed (timed : Bool)
  | greet

/-- What a console does when asked. -/
structure Response where
  /-- What became of the line, if there was one. -/
  outcome : Option Outcome
  events : List Event
  console : Console

/-- Does what is asked for. -/
def respond (console : Console) : Request → Response
  | .submit input nanoseconds =>
      let submission := console.submit input.noise input.line
      ⟨some submission.outcome, submission.eventsTaking nanoseconds, submission.console⟩
  | .setTimed timed => ⟨none, timingNotice timed, console.setTimed timed⟩
  | .greet => ⟨none, greeting, console⟩

/-- The responses to requests one after another. -/
def run : Console → List Request → List Response
  | _, [] => []
  | console, request :: others =>
      let response := console.respond request
      response :: run response.console others

/-- The console after requests. -/
def after : Console → List Request → Console
  | console, [] => console
  | console, request :: others => after (console.respond request).console others

/-- The requests to evaluate lines one after another, `count` lines being before them. -/
def submissions (noises : Nat → Noise) (durations : Nat → Nat) (count : Nat) :
    List String → List Request
  | [] => []
  | line :: others =>
      .submit ⟨line, noises count⟩ (durations count) ::
        submissions noises durations (count + 1) others

/-- The line is one to evaluate: it has words, and they are no command. -/
def Evaluable (line : String) : Prop :=
  ¬ Blank line.toList ∧ ∀ timed, ¬ Commands line timed

instance (line : String) : Decidable (Evaluable line) :=
  inferInstanceAs (Decidable (_ ∧ _))

/-- The text that tells the time, if it is to be told. -/
def timing (timed : Bool) (nanoseconds : Nat) : List Event :=
  if timed then [.print (timeText nanoseconds)] else []

/-- What a console makes of a result, and what it shows of it. -/
inductive Shows : Except EvalError (Option Value) → Outcome → List Event → Prop
  | value (content : Value) :
      Shows (.ok (some content)) (.value content) [.print ("= " ++ content.display)]
  | nothing : Shows (.ok none) .nothing []
  | error (error : EvalError) :
      Shows (.error error) (.error error) [.print ("Error: " ++ error.message)]

theorem shows_notice (result : Except EvalError (Option Value)) :
    Shows result (outcome result) (notice (outcome result)) :=
  match result with
  | .ok (some content) => .value content
  | .ok none => .nothing
  | .error error => .error error

/-- What a console owes to what asks it.  It neither shows nor changes anything for a blank line,
and answers a command with a notice.  Any other line is repeated; then comes what the evaluation
asks for, then the value or the error, and then the time. -/
inductive Step (console : Console) : Request → Response → Prop
  | blank {line : String} {noise : Noise} {nanoseconds : Nat} :
      Blank line.toList →
      Step console (.submit ⟨line, noise⟩ nanoseconds) ⟨some .ignored, [], console⟩
  | command {line : String} {noise : Noise} {nanoseconds : Nat} {timed : Bool} :
      Commands line timed →
      Step console (.submit ⟨line, noise⟩ nanoseconds)
        ⟨some .command, timingNotice timed, ⟨console.session, timed⟩⟩
  | evaluated {line : String} {noise : Noise} {nanoseconds : Nat}
      {result : Except EvalError (Option Value)} {events shown : List Event} {session : Session}
      {outcome : Outcome} :
      Evaluable line →
      console.session.evaluate noise line = ⟨result, events, session⟩ →
      Shows result outcome shown →
      Step console (.submit ⟨line, noise⟩ nanoseconds)
        ⟨some outcome,
          .print ("> " ++ line) :: events ++ shown ++ timing console.timed nanoseconds,
          ⟨session, console.timed⟩⟩
  | setTimed {timed : Bool} :
      Step console (.setTimed timed) ⟨none, timingNotice timed, ⟨console.session, timed⟩⟩
  | greet : Step console .greet ⟨none, greeting, console⟩

variable {console : Console} {request : Request} {requests : List Request} {input : Input}
variable {line : String} {noise : Noise} {nanoseconds : Nat} {timed : Bool}

theorem eventsTaking_eq (submission : Submission) (nanoseconds : Nat) :
    submission.eventsTaking nanoseconds =
      submission.events ++ timing submission.timed nanoseconds := by
  unfold Submission.eventsTaking timing
  split
  · rfl
  · rw [List.append_nil]

theorem submit_of_blank (blank : Blank line.toList) :
    console.submit noise line = ⟨.ignored, [], false, console⟩ := by
  rw [submit, if_pos (isBlankLine_iff.mpr blank)]

theorem submit_of_commands (commands : Commands line timed) :
    console.submit noise line =
      ⟨.command, timingNotice timed, false, ⟨console.session, timed⟩⟩ := by
  rw [submit, if_neg (not_congr isBlankLine_iff |>.mpr commands.not_blank),
    timingCommand?_eq_some_iff.mpr commands]
  rfl

theorem submit_of_evaluable (evaluable : Evaluable line) :
    console.submit noise line =
      let evaluation := console.session.evaluate noise line
      ⟨outcome evaluation.result,
        .print ("> " ++ line) :: evaluation.events ++ notice (outcome evaluation.result),
        console.timed, ⟨evaluation.session, console.timed⟩⟩ := by
  have noCommand : timingCommand? line = none :=
    Option.eq_none_iff_forall_ne_some.mpr fun timed commands =>
      evaluable.2 timed (timingCommand?_eq_some_iff.mp commands)
  rw [submit, if_neg (not_congr isBlankLine_iff |>.mpr evaluable.1), noCommand]

theorem respond_of_evaluable (evaluable : Evaluable line) :
    console.respond (.submit ⟨line, noise⟩ nanoseconds) =
      let evaluation := console.session.evaluate noise line
      ⟨some (outcome evaluation.result),
        .print ("> " ++ line) :: evaluation.events ++ notice (outcome evaluation.result) ++
          timing console.timed nanoseconds,
        ⟨evaluation.session, console.timed⟩⟩ := by
  simp only [respond, submit_of_evaluable evaluable, eventsTaking_eq]

theorem blank_or_commands_or_evaluable (line : String) :
    Blank line.toList ∨ (∃ timed, Commands line timed) ∨ Evaluable line := by
  by_cases blank : Blank line.toList
  · exact .inl blank
  · by_cases commands : ∃ timed, Commands line timed
    · exact .inr (.inl commands)
    · exact .inr (.inr ⟨blank, not_exists.mp commands⟩)

theorem step_respond (console : Console) (request : Request) :
    Step console request (console.respond request) := by
  cases request with
  | setTimed timed => exact .setTimed
  | greet => exact .greet
  | submit input nanoseconds =>
      obtain ⟨line, noise⟩ := input
      rcases blank_or_commands_or_evaluable line with blank | ⟨timed, commands⟩ | evaluable
      · rw [respond, submit_of_blank blank]
        exact .blank blank
      · rw [respond, submit_of_commands commands]
        exact .command commands
      · rw [respond_of_evaluable evaluable]
        exact .evaluated evaluable rfl (shows_notice _)

/-- The line that a request has evaluated. -/
def Request.evaluated? : Request → Option Input
  | submit input _ => if Evaluable input.line then some input else none
  | setTimed _ | greet => none

/-- What a request sets the timing to. -/
def Request.setting? : Request → Option Bool
  | submit input _ =>
      if Commands input.line true then some true
      else if Commands input.line false then some false
      else none
  | setTimed timed => some timed
  | greet => none

theorem evaluated?_of_evaluable (evaluable : Evaluable line) :
    (Request.submit ⟨line, noise⟩ nanoseconds).evaluated? = some ⟨line, noise⟩ :=
  if_pos evaluable

theorem evaluated?_of_blank (blank : Blank line.toList) :
    (Request.submit ⟨line, noise⟩ nanoseconds).evaluated? = none :=
  if_neg fun evaluable => evaluable.1 blank

theorem evaluated?_of_commands (commands : Commands line timed) :
    (Request.submit ⟨line, noise⟩ nanoseconds).evaluated? = none :=
  if_neg fun evaluable => evaluable.2 timed commands

theorem setting?_of_commands (commands : Commands line timed) :
    (Request.submit ⟨line, noise⟩ nanoseconds).setting? = some timed := by
  cases timed with
  | true => exact if_pos commands
  | false =>
      have other : ¬ Commands line true := fun on => absurd (on.unique commands) (by decide)
      exact (if_neg other).trans (if_pos commands)

theorem setting?_of_not_commands (plain : ∀ timed, ¬ Commands line timed) :
    (Request.submit ⟨line, noise⟩ nanoseconds).setting? = none :=
  (if_neg (plain true)).trans (if_neg (plain false))

section Step

variable {response : Response}

/-- Only lines that are evaluated change the variables. -/
theorem Step.session (step : Step console request response) :
    response.console.session = console.session.after request.evaluated?.toList := by
  cases step with
  | blank blank => rw [evaluated?_of_blank blank]; rfl
  | command commands => rw [evaluated?_of_commands commands]; rfl
  | evaluated evaluable evaluated shows =>
      rw [evaluated?_of_evaluable evaluable]
      exact congrArg Evaluation.session evaluated.symm
  | setTimed | greet => rfl

theorem Step.setting (step : Step console request response) :
    response.console.timed = request.setting?.getD console.timed := by
  cases step with
  | blank blank =>
      rw [setting?_of_not_commands fun timed commands => commands.not_blank blank]
      rfl
  | command commands => rw [setting?_of_commands commands]; rfl
  | evaluated evaluable evaluated shows => rw [setting?_of_not_commands evaluable.2]; rfl
  | setTimed | greet => rfl

theorem Shows.ne {result : Except EvalError (Option Value)} {shownAs : Outcome}
    {shown : List Event} (shows : Shows result shownAs shown) :
    shownAs ≠ .ignored ∧ shownAs ≠ .command := by
  cases shows <;> exact ⟨nofun, nofun⟩

end Step

/-! ## Runs -/

end Console

end LineCalc
