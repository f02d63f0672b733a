import LineCalc.Builtin.Numeric
import LineCalc.Event
import LineCalc.Noise
import LineCalc.Operand

/-!
# Calls of builtins

A builtin computes with numbers, draws a random number, or asks something of the console.  Its body
says which, and determines how many arguments it takes.  A call either fails or gives an operand;
only the builtins that speak to the console record an event, and they have an empty result.
-/

namespace LineCalc

/-- What a line has done besides computing. -/
structure Effects where
  /-- Requests to the console, the first one first. -/
  events : List Event
  /-- How many random numbers have been drawn. -/
  draws : Nat
  deriving DecidableEq

namespace Effects

/-- Nothing done yet. -/
def none : Effects :=
  ⟨[], 0⟩

/-- One more request to the console. -/
def record (effects : Effects) (event : Event) : Effects :=
  { effects with events := effects.events ++ [event] }

/-- One more random number drawn. -/
def draw (effects : Effects) : Effects :=
  { effects with draws := effects.draws + 1 }

end Effects

namespace Builtin

/-- How a builtin gets its result from its arguments. -/
inductive Body where
  /-- A random number. -/
  | random
  /-- A function of one number. -/
  | unary (function : Double → Double)
  /-- A function of two numbers. -/
  | binary (function : Double → Double → Double)
  /-- The numbers picked against each other one after another, from a start. -/
  | extreme (start : Double) (pick : Double → Double → Double)
  /-- A fixed request to the console. -/
  | announce (event : Event)
  /-- Shows the arguments. -/
  | display
  /-- Shows the description of an argument, or all descriptions. -/
  | describe

/-- The argument counts that a body has a case for. -/
def Body.arity : Body → Arity
  | random | announce _ => .exactly 0
  | unary _ => .exactly 1
  | binary _ => .exactly 2
  | extreme .. | display => .any
  | describe => .oneOf [0, 1]

/-- What `version` shows. -/
def versionText : String :=
  "ClassHub v1.1"

/-- The body of each builtin. -/
def body : Builtin → Body
  | round => .unary Double.roundHalfUp
  | roundToDecimalPlace => .binary Double.roundToDecimalPlace
  | sprt | sqrt => .unary Double.sqrt
  | pow => .binary Double.pow
  | sin => .unary Double.sin
  | cos => .unary Double.cos
  | tan => .unary Double.tan
  | abs => .unary Double.abs
  | floor => .unary Double.floor
  | ceil => .unary Double.ceil
  | exp => .unary Double.exp
  | log => .unary Double.log
  | log10 => .unary Double.log10
  | max => .extreme (.infinite true) Double.larger
  | min => .extreme (.infinite false) Double.smaller
  | asin => .unary Double.asin
  | acos => .unary Double.acos
  | atan => .unary Double.atan
  | rand => .random
  | cbrt => .unary Double.cbrt
  | fact => .unary Double.factorial
  | help => .describe
  | clear => .announce .clear
  | print => .display
  | version => .announce (.print versionText)

/-- The argument counts that the builtin accepts. -/
def arity (builtin : Builtin) : Arity :=
  builtin.body.arity

/-- Picks among numbers, the best one so far first.  Not-a-number ends the search and is its result.
-/
def extremeFrom (pick : Double → Double → Double) (best : Double) :
    List Operand → Except EvalError Double
  | [] => return best
  | operand :: others => do
      let number ← operand.asNumber
      if number = .nan then return .nan else extremeFrom pick (pick best number) others

/-- The texts of values, separated by spaces. -/
def joined (arguments : List Operand) : Except EvalError String := do
  let values ← arguments.mapM Operand.asValue
  return " ".intercalate (values.map Value.display)

/-- Puts a builtin in front of the first one whose name comes after its own. -/
def place (builtin : Builtin) : List Builtin → List Builtin
  | [] => [builtin]
  | first :: others =>
      if builtin.name < first.name then builtin :: first :: others
      else first :: place builtin others

/-- All descriptions, in the order of the names. -/
def listing : String :=
  "\n".intercalate
    ("Available functions:" ::
      (all.foldr place []).map fun builtin => builtin.name ++ ": " ++ builtin.description)

/-- The name that an argument of `help` gives: its own for a builtin, its text for a value. -/
def topic : Operand → Except EvalError String
  | .function builtin => return builtin.name
  | operand => Value.display <$> operand.asValue

/-- What `help` shows for a name. -/
def helpOn (name : String) : String :=
  match lookup? name with
  | some builtin => builtin.description
  | none => "No help available for: " ++ name

/-- Calls a builtin.  The result is an error, or an operand and what has been done by then. -/
def call (noise : Noise) (builtin : Builtin) (arguments : List Operand) (effects : Effects) :
    Except EvalError (Operand × Effects) :=
  match builtin.body, arguments with
  | .random, [] => return (.value (.number (noise effects.draws)), effects.draw)
  | .unary function, [first] => do
      let number ← first.asNumber
      return (.value (.number (function number)), effects)
  | .binary function, [first, second] => do
      let left ← first.asNumber
      let right ← second.asNumber
      return (.value (.number (function left right)), effects)
  | .extreme start pick, operands => do
      let number ← extremeFrom pick start operands
      return (.value (.number number), effects)
  | .announce event, [] => return (.nothing builtin, effects.record event)
  | .display, operands => do
      let text ← joined operands
      return (.nothing builtin, effects.record (.print text))
  | .describe, [] => return (.nothing builtin, effects.record (.print listing))
  | .describe, [operand] => do
      let name ← topic operand
      return (.nothing builtin, effects.record (.print (helpOn name)))
  | body, operands =>
      .error (.meaningless (.argumentCountMismatch builtin.name body.arity operands.length))

end Builtin

end LineCalc
