import LineCalc.Script

/-!
# Consoles

A console repeats each line it is given, evaluates it, and shows the value or the error.  If asked
to, it also shows how long the evaluation took.  Two lines are commands to the console itself:
`:time on` and `:time off`.
-/

namespace LineCalc

/-- A session with a console around it. -/
structure Console where
  session : Session
  /-- Is the time that an evaluation took to be shown? -/
  timed : Bool
  deriving DecidableEq

/-- What became of a line given to a console. -/
inductive Outcome where
  /-- The line was blank. -/
  | ignored
  | value (content : Value)
  /-- The line only spoke to the console. -/
  | nothing
  | error (error : EvalError)
  /-- The line was a command to the console itself. -/
  | command

/-- What a console does with a line. -/
structure Submission where
  outcome : Outcome
  /-- What is shown, apart from the time taken. -/
  events : List Event
  /-- Is the time taken shown after that? -/
  timed : Bool
  /-- The console after the line. -/
  console : Console

/-- The text that tells how long an evaluation took, in hundredths of a millisecond. -/
def timeText (nanoseconds : Nat) : String :=
  let hundredths := (nanoseconds + 5000) / 10000
  let places := if hundredths % 100 < 10 then "0" else ""
  s!"(Evaluated in {hundredths / 100}.{places}{hundredths % 100}ms)"

/-- All that a console shows for a line whose evaluation took some time. -/
def Submission.eventsTaking (submission : Submission) (nanoseconds : Nat) : List Event :=
  if submission.timed then
    submission.events ++ [.print (timeText nanoseconds)]
  else
    submission.events

namespace Console

/-- A console with a fresh session. -/
def fresh (timed : Bool) : Console :=
  ⟨Session.fresh, timed⟩

/-- What a console shows at first. -/
def greeting : List Event :=
  [.print "Use 'help()' to see available functions. Use 'help(function)' for specific help."]

/-- What a console shows when timing is turned on or off. -/
def timingNotice (timed : Bool) : List Event :=
  [.print ("Flag 'flag.showExecutionTime' " ++ if timed then "enabled" else "disabled")]

/-- The console with timing turned on or off. -/
def setTimed (console : Console) (timed : Bool) : Console :=
  { console with timed }

/-- The setting that a line commands, if it is a command. -/
def timingCommand? (line : String) : Option Bool :=
  match (Text.words line.toList).map String.ofList with
  | [":time", "on"] => some true
  | [":time", "off"] => some false
  | _ => none

/-- The result of an evaluation as an outcome. -/
def outcome : Except EvalError (Option Value) → Outcome
  | .ok (some value) => .value value
  | .ok none => .nothing
  | .error error => .error error

/-- What is shown of an outcome. -/
def notice : Outcome → List Event
  | .value content => [.print ("= " ++ content.display)]
  | .error error => [.print ("Error: " ++ error.message)]
  | _ => []

/-- Gives a console a line. -/
def submit (noise : Noise) (console : Console) (line : String) : Submission :=
  if isBlankLine line then
    ⟨.ignored, [], false, console⟩
  else
    match timingCommand? line with
    | some timed => ⟨.command, timingNotice timed, false, console.setTimed timed⟩
    | none =>
        let evaluation := console.session.evaluate noise line
        let outcome := outcome evaluation.result
        { outcome
          events := .print ("> " ++ line) :: evaluation.events ++ notice outcome
          timed := console.timed
          console := { console with session := evaluation.session } }

end Console

end LineCalc
