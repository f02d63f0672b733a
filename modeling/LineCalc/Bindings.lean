import LineCalc.Value

/-!
# Bindings

The variables: names that have been assigned, and the values they hold.
-/

namespace LineCalc

/-- Names with values, the one assigned last first; no name occurs twice. -/
structure Bindings where
  entries : List (String × Value)
  deriving DecidableEq

namespace Bindings

/-- No variable at all. -/
def empty : Bindings :=
  ⟨[]⟩

/-- The value of a name. -/
def get? (bindings : Bindings) (name : String) : Option Value :=
  bindings.entries.lookup name

/-- Gives a name a value, in place of the one it had. -/
def insert (bindings : Bindings) (name : String) (value : Value) : Bindings :=
  ⟨(name, value) :: bindings.entries.filter fun entry => entry.1 != name⟩

end Bindings

end LineCalc
