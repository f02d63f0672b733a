/-!
# Events

What a line asks of the console that shows its results.
-/

namespace LineCalc

/-- One request to the console. -/
inductive Event where
  /-- Show a text. -/
  | print (text : String)
  /-- Erase what has been shown. -/
  | clear
  deriving DecidableEq

namespace Event

/-- The texts shown after an event, given those shown before it. -/
def apply (shown : List String) : Event → List String
  | print text => shown ++ [text]
  | clear => []

/-- The texts shown after some events, given those shown before them. -/
def applyAll (shown : List String) (events : List Event) : List String :=
  events.foldl apply shown

/-- What a terminal is sent: a line for each text, a control sequence for erasing. -/
def terminal : Event → String
  | print text => text ++ "\n"
  | clear => "\x1b[2J\x1b[H"

/-- What a terminal is sent for some events. -/
def terminalAll (events : List Event) : String :=
  String.join (events.map terminal)

end Event

end LineCalc
