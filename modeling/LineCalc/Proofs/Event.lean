import LineCalc.Event

/-!
# What is shown

A text stands until the next erasure.  What a terminal is sent for some events is what it is sent
for each of them, one after another.
-/

namespace LineCalc

namespace Event

theorem terminalAll_append (before later : List Event) :
    terminalAll (before ++ later) = terminalAll before ++ terminalAll later := by
  rw [terminalAll, List.map_append, String.join_append]
  rfl

theorem terminalAll_flatten (pieces : List (List Event)) :
    terminalAll pieces.flatten = String.join (pieces.map terminalAll) := by
  induction pieces with
  | nil => rfl
  | cons piece others ih =>
      rw [List.flatten_cons, terminalAll_append, ih, List.map_cons, String.join_cons]

end Event

end LineCalc
