import LineCalc.Double.Rounding

/-!
# Noise

The random numbers of a line are a sequence given from outside; the calls on the line take its
members in turn.  A seed determines one such sequence for every line.
-/

namespace LineCalc

/-- The random numbers that the calls on one line get, by the count of calls before. -/
abbrev Noise := Nat → Double

namespace Noise

/-- A mixture of the bits of a word, one to one. -/
def scramble (word : UInt64) : UInt64 :=
  let word := (word ^^^ (word >>> 30)) * 0xbf58476d1ce4e5b9
  let word := (word ^^^ (word >>> 27)) * 0x94d049bb133111eb
  word ^^^ (word >>> 31)

/-- The word at a place of the sequence that a seed begins. -/
def word (seed : UInt64) (place : Nat) : UInt64 :=
  scramble (seed + UInt64.ofNat (place + 1) * 0x9e3779b97f4a7c15)

/-- The number at least zero and less than one whose first 53 binary places are those of the word.
-/
def fraction (word : UInt64) : Double :=
  Double.ofRat false ((word >>> 11).toNat / 9007199254740992)

/-- The noise of each line, by the count of lines before it. -/
def ofSeed (seed : UInt64) (line : Nat) : Noise :=
  fun call => fraction (word (word seed line) call)

end Noise

end LineCalc
