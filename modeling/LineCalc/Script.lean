import LineCalc.Session
import LineCalc.Text.Lines

/-!
# Scripts

A script is evaluated line by line in one session, up to the first line that fails.  Its result is
the value of the last line that has one.
-/

namespace LineCalc

/-- Is the line without a character that is not blank? -/
def isBlankLine (line : String) : Bool :=
  line.toList.all Text.isBlank

namespace Script

/-- What a script comes to. -/
structure Report where
  /-- The first error, or the last value if there is one. -/
  result : Except EvalError (Option Value)
  /-- Requests to the console. -/
  events : List Event

/-- Evaluates lines that follow others: `count` of them, the last value among which was `latest`.
Blank lines are passed over. -/
def evaluateFrom (noises : Nat → Noise) (session : Session) (latest : Option Value)
    (count : Nat) : List String → Report
  | [] => ⟨.ok latest, []⟩
  | line :: others =>
      if isBlankLine line then
        evaluateFrom noises session latest (count + 1) others
      else
        let evaluation := session.evaluate (noises count) line
        match evaluation.result with
        | .error error => ⟨.error error, evaluation.events⟩
        | .ok value =>
            let report :=
              evaluateFrom noises evaluation.session (value <|> latest) (count + 1) others
            ⟨report.result, evaluation.events ++ report.events⟩

/-- The lines of a source text. -/
def lines (source : String) : List String :=
  (Text.lines source.toList).map String.ofList

/-- Evaluates a source text in a fresh session. -/
def evaluate (noises : Nat → Noise) (source : String) : Report :=
  evaluateFrom noises Session.fresh none 0 (lines source)

end Script

end LineCalc
