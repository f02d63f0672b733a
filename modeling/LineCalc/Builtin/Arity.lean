/-!
# Arities

How many arguments a builtin takes, and how an error message says so.
-/

namespace LineCalc

/-- The argument counts that a builtin accepts. -/
inductive Arity where
  /-- One count. -/
  | exactly (count : Nat)
  /-- Any of several counts. -/
  | oneOf (counts : List Nat)
  /-- Every count, none included. -/
  | any
  deriving DecidableEq

namespace Arity

/-- Does the arity accept this many arguments? -/
def allows : Arity → Nat → Bool
  | exactly count, found => found == count
  | oneOf counts, found => counts.contains found
  | any, _ => true

/-- The accepted counts in words. -/
def display : Arity → String
  | exactly count => toString count
  | oneOf counts => " or ".intercalate (counts.map toString)
  | any => "any number of"

end Arity

end LineCalc
