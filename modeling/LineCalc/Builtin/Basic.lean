/-!
# Builtins

The functions that lines may call, with the names they are called by and the texts that describe
them.
-/

namespace LineCalc

/-- A builtin function. -/
inductive Builtin where
  | round
  | roundToDecimalPlace
  | sprt
  | sqrt
  | pow
  | sin
  | cos
  | tan
  | abs
  | floor
  | ceil
  | exp
  | log
  | log10
  | max
  | min
  | asin
  | acos
  | atan
  | rand
  | cbrt
  | fact
  | help
  | clear
  | print
  | version
  deriving DecidableEq

namespace Builtin

/-- All builtins, in the order of their table. -/
def all : List Builtin :=
  [round, roundToDecimalPlace, sprt, sqrt, pow, sin, cos, tan, abs, floor, ceil, exp, log, log10,
    max, min, asin, acos, atan, rand, cbrt, fact, help, clear, print, version]

/-- The name that a line calls the builtin by. -/
def name : Builtin → String
  | round => "round"
  | roundToDecimalPlace => "roundToDecimalPlace"
  | sprt => "sprt"
  | sqrt => "sqrt"
  | pow => "pow"
  | sin => "sin"
  | cos => "cos"
  | tan => "tan"
  | abs => "abs"
  | floor => "floor"
  | ceil => "ceil"
  | exp => "exp"
  | log => "log"
  | log10 => "log10"
  | max => "max"
  | min => "min"
  | asin => "asin"
  | acos => "acos"
  | atan => "atan"
  | rand => "rand"
  | cbrt => "cbrt"
  | fact => "fact"
  | help => "help"
  | clear => "clear"
  | print => "print"
  | version => "version"

/-- The text that `help` shows for the builtin. -/
def description : Builtin → String
  | round => "round(x): Rounds x to the nearest integer."
  | roundToDecimalPlace => "roundToDecimalPlace(x, d): Rounds x to d decimal places."
  | sprt => "sprt(x) or sqrt(x): Returns the square root of x."
  | sqrt => "sqrt(x): Returns the square root of x."
  | pow => "pow(x, y): Returns x raised to the power of y."
  | sin => "sin(x): Returns the sine of x (in radians)."
  | cos => "cos(x): Returns the cosine of x (in radians)."
  | tan => "tan(x): Returns the tangent of x (in radians)."
  | abs => "abs(x): Returns the absolute value of x."
  | floor => "floor(x): Returns the largest integer ≤ x."
  | ceil => "ceil(x): Returns the smallest integer ≥ x."
  | exp => "exp(x): Returns e raised to the power of x."
  | log => "log(x): Returns the natural logarithm of x."
  | log10 => "log10(x): Returns the base-10 logarithm of x."
  | max => "max(x, y, ...): Returns the largest of the provided values."
  | min => "min(x, y, ...): Returns the smallest of the provided values."
  | asin => "asin(x): Returns the arcsine of x (in radians)."
  | acos => "acos(x): Returns the arccosine of x (in radians)."
  | atan => "atan(x): Returns the arctangent of x (in radians)."
  | rand => "rand(): Returns a random number between 0 and 1."
  | cbrt => "cbrt(x): Returns the cube root of x."
  | fact => "fact(n): Returns the factorial of n."
  | help =>
      "help(): Lists available functions. " ++
        "help(func) or help('funcName'): Shows help for that function."
  | clear => "clear(): Clears the console output."
  | print => "print(...args): Prints the provided arguments to the console."
  | version => "version(): Prints the version number."

/-- The builtin of a given name. -/
def lookup? (name : String) : Option Builtin :=
  all.find? fun builtin => builtin.name = name

end Builtin

end LineCalc
