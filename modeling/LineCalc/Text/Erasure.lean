import LineCalc.Text.Grapheme.Cluster

/-!
# Erasure

A line that was typed may hold backspaces.  Each of them erases the cluster before it that is still
there, if there is one.
-/

namespace LineCalc.Text

/-- The clusters kept so far, the last one first, after one more cluster of the typed line. -/
def keep (kept : List (List Char)) (cluster : List Char) : List (List Char) :=
  if cluster = ['\x08'] then kept.tail else cluster :: kept

/-- The line that remains of a typed one. -/
def erase (typed : List Char) : List Char :=
  ((Grapheme.clusters typed).foldl keep []).reverse.flatten

end LineCalc.Text
