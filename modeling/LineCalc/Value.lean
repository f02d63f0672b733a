import LineCalc.Builtin.Basic
import LineCalc.Decimal.Display
import LineCalc.Decimal.Reading

/-!
# Values

What variables hold and what lines show: numbers and texts.  Arithmetic reads texts as numbers,
except that a sum with a text in it joins the two as they are displayed.
-/

namespace LineCalc

/-- A number or a text. -/
inductive Value where
  | number (amount : Double)
  | text (content : String)
  deriving DecidableEq

namespace Value

/-- The text by which a value is shown. -/
def display : Value → String
  | number amount => amount.display
  | text content => content

/-- The number that a value is or stands for. -/
def toNumber : Value → Double
  | number amount => amount
  | text content => Double.ofText content

/-- Sum of two numbers; otherwise the two displays, one after the other. -/
def add : Value → Value → Value
  | number left, number right => number (left.add right)
  | left, right => text (left.display ++ right.display)

/-- The value of a number computed from two values. -/
def combine (operation : Double → Double → Double) (left right : Value) : Value :=
  number (operation left.toNumber right.toNumber)

def sub : Value → Value → Value := combine Double.sub

def mul : Value → Value → Value := combine Double.mul

def div : Value → Value → Value := combine Double.div

def rem : Value → Value → Value := combine Double.rem

def neg (value : Value) : Value :=
  number value.toNumber.neg

end Value

/-- A binary operator of the language. -/
inductive Operator where
  | add
  | sub
  | mul
  | div
  | rem
  deriving DecidableEq

namespace Operator

/-- The operators between terms. -/
def additive? : Char → Option Operator
  | '+' => some add
  | '-' => some sub
  | _ => none

/-- The operators between factors. -/
def multiplicative? : Char → Option Operator
  | '*' => some mul
  | '/' => some div
  | '%' => some rem
  | _ => none

/-- The value of an operator between two values. -/
def apply : Operator → Value → Value → Value
  | add => Value.add
  | sub => Value.sub
  | mul => Value.mul
  | div => Value.div
  | rem => Value.rem

end Operator

end LineCalc
