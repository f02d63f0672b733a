import LineCalc.Text.Grapheme.Table

/-!
# Grapheme clusters

A text falls into clusters, each of which a reader takes for one character: a letter with its
accents, an emoji with its modifiers, a flag, a Hangul syllable.  Between two characters there is a
boundary unless one of the rules for extended grapheme clusters joins them.
-/

namespace LineCalc.Text.Grapheme

/-- What matters of a character for the boundaries around it. -/
inductive Class where
  | carriageReturn
  | newline
  | control
  | extend
  | joiner
  | spacing
  | preceding
  | leading
  | vowel
  | trailing
  /-- A Hangul syllable without a trailing consonant. -/
  | openSyllable
  /-- A Hangul syllable with a trailing consonant. -/
  | closedSyllable
  /-- One of the two letters of a flag. -/
  | regional
  | pictograph
  | consonant
  | other
  deriving DecidableEq

/-- Is the code in one of the runs, which are in ascending order? -/
def inRanges (code : Nat) : List (Nat × Nat) → Bool
  | [] => false
  | (first, last) :: others =>
      if code < first then false else if code ≤ last then true else inRanges code others

/-- The class of a character. -/
def classOf (character : Char) : Class :=
  let code := character.toNat
  if code = 0x0D then .carriageReturn
  else if code = 0x0A then .newline
  else if inRanges code controlRanges then .control
  else if code < 0xA0 then .other
  else if code = 0x200D then .joiner
  else if inRanges code extendRanges then .extend
  else if 0xAC00 ≤ code ∧ code ≤ 0xD7A3 then
    if (code - 0xAC00) % 28 = 0 then .openSyllable else .closedSyllable
  else if 0x1F1E6 ≤ code ∧ code ≤ 0x1F1FF then .regional
  else if inRanges code pictographRanges then .pictograph
  else if inRanges code spacingRanges then .spacing
  else if inRanges code consonantRanges then .consonant
  else if inRanges code leadingRanges then .leading
  else if inRanges code vowelRanges then .vowel
  else if inRanges code trailingRanges then .trailing
  else if inRanges code precedingRanges then .preceding
  else .other

/-- How far the text up to some place is into a conjunct. -/
inductive Conjunct where
  | none
  /-- A consonant is there, but no linker yet. -/
  | started
  | linked
  deriving DecidableEq

/-- What is known of the text up to some place in it. -/
structure Context where
  /-- Class of the last character. -/
  last : Class
  /-- Is there a pictograph behind the extending characters at the end? -/
  pictograph : Bool
  conjunct : Conjunct
  /-- Is the number of flag letters at the end odd? -/
  halfFlag : Bool
  deriving DecidableEq

/-- Before the first character of a text. -/
def Context.start : Context :=
  ⟨.other, false, .none, false⟩

/-- Takes in one more character. -/
def Context.after (context : Context) (character : Char) : Context :=
  let next := classOf character
  { last := next
    pictograph :=
      match next with
      | .pictograph => true
      | .extend | .joiner => context.pictograph && context.last != .joiner
      | _ => false
    conjunct :=
      match next with
      | .consonant => .started
      | .joiner => context.conjunct
      | .extend =>
          if character = '\u200C' then .none
          else if linkerCodes.contains character.toNat && context.conjunct = .started then .linked
          else context.conjunct
      | _ => .none
    halfFlag := next = .regional && !context.halfFlag }

/-- Does the next character belong to the cluster of the last one? -/
def Context.joins (context : Context) (next : Class) : Bool :=
  match context.last, next with
  | .carriageReturn, .newline => true
  | .carriageReturn, _ | .newline, _ | .control, _ => false
  | _, .carriageReturn | _, .newline | _, .control => false
  | .leading, .leading | .leading, .vowel => true
  | .leading, .openSyllable | .leading, .closedSyllable => true
  | .openSyllable, .vowel | .vowel, .vowel | .openSyllable, .trailing | .vowel, .trailing => true
  | .closedSyllable, .trailing | .trailing, .trailing => true
  | _, .extend | _, .joiner | _, .spacing => true
  | .preceding, _ => true
  | _, .consonant => context.conjunct = .linked
  | .joiner, .pictograph => context.pictograph
  | .regional, .regional => context.halfFlag
  | _, _ => false

/-- The clusters of a text that follows a context, the part of the first one before the text being
given in reverse. -/
def clustersFrom (context : Context) (begun : List Char) : List Char → List (List Char)
  | [] => if begun = [] then [] else [begun.reverse]
  | character :: others =>
      let after := context.after character
      if begun = [] ∨ context.joins (classOf character) then
        clustersFrom after (character :: begun) others
      else
        begun.reverse :: clustersFrom after [character] others

/-- The clusters of a text. -/
def clusters (text : List Char) : List (List Char) :=
  clustersFrom Context.start [] text

end LineCalc.Text.Grapheme
