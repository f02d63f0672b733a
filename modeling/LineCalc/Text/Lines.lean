/-!
# Lines

A line ends with a newline, which may have one carriage return before it; the end of the text ends
its last line.  A carriage return elsewhere belongs to the line.
-/

namespace LineCalc.Text

/-- The line without one carriage return at its end. -/
def dropReturn (line : List Char) : List Char :=
  if line.getLast? = some '\r' then line.dropLast else line

/-- The lines of a text behind the beginning of a line, which is given in reverse. -/
def linesFrom (begun : List Char) : List Char → List (List Char)
  | [] => if begun = [] then [] else [begun.reverse]
  | next :: others =>
      if next = '\n' then dropReturn begun.reverse :: linesFrom [] others
      else linesFrom (next :: begun) others

/-- The lines of a text, without what ends them. -/
def lines (text : List Char) : List (List Char) :=
  linesFrom [] text

end LineCalc.Text
