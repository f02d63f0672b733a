import LineCalc.Text.Blank

/-!
# Cursors

A cursor stands in a text: it knows how many characters are behind it and which ones are ahead.
Going back to an earlier place is using the cursor that stood there.
-/

namespace LineCalc

/-- A place in a text. -/
structure Cursor where
  /-- Number of characters behind the cursor. -/
  position : Nat
  /-- The characters ahead of it. -/
  ahead : List Char
  deriving DecidableEq

namespace Cursor

/-- The beginning of a text. -/
def ofString (text : String) : Cursor :=
  ⟨0, text.toList⟩

/-- The next character. -/
def peek (cursor : Cursor) : Option Char :=
  cursor.ahead.head?

/-- The character some places after the next one. -/
def peekAt (cursor : Cursor) (offset : Nat) : Option Char :=
  cursor.ahead[offset]?

/-- Steps over the next character, if there is one. -/
def bump (cursor : Cursor) : Option Char × Cursor :=
  match cursor.ahead with
  | [] => (none, cursor)
  | next :: rest => (some next, ⟨cursor.position + 1, rest⟩)

/-- Steps over the next character if it is the expected one. -/
def eat (cursor : Cursor) (expected : Char) : Bool × Cursor :=
  if cursor.peek = some expected then (true, cursor.bump.2) else (false, cursor)

/-- Steps over the longest run of wanted characters. -/
def takeWhile (cursor : Cursor) (wanted : Char → Bool) : List Char × Cursor :=
  let taken := cursor.ahead.takeWhile wanted
  (taken, ⟨cursor.position + taken.length, cursor.ahead.dropWhile wanted⟩)

/-- Steps over blanks. -/
def skipBlanks (cursor : Cursor) : Cursor :=
  (cursor.takeWhile Text.isBlank).2

end Cursor

end LineCalc
