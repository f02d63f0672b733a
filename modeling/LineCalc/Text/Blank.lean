/-!
# Blanks

The blank characters are those with the Unicode property `White_Space`.  Blanks separate words and
are dropped around a text.
-/

namespace LineCalc.Text

/-- First and last code of each run of blank characters. -/
def blankRanges : List (Nat × Nat) :=
  [(0x09, 0x0D), (0x20, 0x20), (0x85, 0x85), (0xA0, 0xA0), (0x1680, 0x1680), (0x2000, 0x200A),
    (0x2028, 0x2029), (0x202F, 0x202F), (0x205F, 0x205F), (0x3000, 0x3000)]

/-- Is the character blank? -/
def isBlank (character : Char) : Bool :=
  blankRanges.any fun (first, last) => first ≤ character.toNat && character.toNat ≤ last

/-- The text without the blanks at its beginning. -/
def dropBlanks (text : List Char) : List Char :=
  text.dropWhile isBlank

/-- The text without the blanks around it. -/
def trim (text : List Char) : List Char :=
  (dropBlanks (dropBlanks text).reverse).reverse

/-- The words of a text behind the beginning of a word, which is given in reverse. -/
def wordsFrom (begun : List Char) : List Char → List (List Char)
  | [] => if begun = [] then [] else [begun.reverse]
  | next :: others =>
      if isBlank next then
        if begun = [] then wordsFrom [] others else begun.reverse :: wordsFrom [] others
      else
        wordsFrom (next :: begun) others

/-- The longest pieces of a text without a blank. -/
def words (text : List Char) : List (List Char) :=
  wordsFrom [] text

end LineCalc.Text
