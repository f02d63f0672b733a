import LineCalc.Proofs.Decimal.Digits
import LineCalc.Proofs.Grammar.Token

/-!
# Spelled decimals

The texts that stand for decimals: digits with an optional point among, behind or before them, an
optional sign in front, and an optional exponent behind.  These texts and no others are read as
decimals.  Of an exponent the digits are heeded until they have reached `65536`.
-/

namespace LineCalc

/-- A sign that may be left out. -/
inductive Sign where
  | absent
  | plus
  | minus

namespace Sign

def characters : Sign → List Char
  | absent => []
  | plus => ['+']
  | minus => ['-']

def isMinus : Sign → Bool
  | minus => true
  | absent | plus => false

/-- The whole number with the sign. -/
def apply (sign : Sign) (size : Nat) : Int :=
  if sign.isMinus then -size else size

end Sign

/-- Digits with an optional point. -/
inductive Figures where
  /-- The point has a digit before it, or is left out. -/
  | leading (whole : Run Char.isDigit)
      (places : Option {digits : List Char // ∀ digit ∈ digits, digit.isDigit = true})
  /-- The point has no digit before it. -/
  | trailing (places : Run Char.isDigit)

namespace Figures

def characters : Figures → List Char
  | leading whole none => whole.characters
  | leading whole (some places) => whole.characters ++ '.' :: places
  | trailing places => '.' :: places.characters

theorem characters_ne_nil (figures : Figures) : figures.characters ≠ [] := by
  match figures with
  | leading whole none => exact whole.nonempty
  | leading whole (some places) => exact List.append_ne_nil_of_left_ne_nil whole.nonempty _
  | trailing places => exact List.cons_ne_nil _ _

/-- The digits before the point. -/
def whole : Figures → List Char
  | leading whole _ => whole.characters
  | trailing _ => []

/-- The digits behind the point. -/
def places : Figures → List Char
  | leading _ none => []
  | leading _ (some places) => places
  | trailing places => places.characters

/-- How many digits there are. -/
def count (figures : Figures) : Nat :=
  figures.whole.length + figures.places.length

/-- The number that is written. -/
def decimal (figures : Figures) : Decimal :=
  .ofDigits figures.whole figures.places

end Figures

/-- A power of ten behind a number. -/
structure Exponent where
  mark : Char
  marks : mark = 'e' ∨ mark = 'E'
  sign : Sign
  digits : Run Char.isDigit

namespace Exponent

def characters (exponent : Exponent) : List Char :=
  exponent.mark :: (exponent.sign.characters ++ exponent.digits.characters)

/-- The exponent if its digits give a number of some size. -/
def valueBy (size : List Char → Nat) (exponent : Exponent) : Int :=
  exponent.sign.apply (size exponent.digits.characters)

/-- The exponent that is written. -/
def value (exponent : Exponent) : Int :=
  exponent.sign.apply (readWhole exponent.digits.characters)

/-- The exponent that is read. -/
def taken (exponent : Exponent) : Int :=
  exponent.sign.apply (readWhole (Decimal.heeded exponent.digits.characters))

theorem valueBy_exponentMagnitude : valueBy Decimal.exponentMagnitude = taken := by
  funext exponent
  rw [valueBy, Decimal.exponentMagnitude_eq, taken]

end Exponent

/-- A decimal as texts spell it. -/
structure Spelling where
  sign : Sign
  figures : Figures
  exponent : Option Exponent

namespace Spelling

/-- The text without its sign. -/
def magnitude (spelling : Spelling) : List Char :=
  spelling.figures.characters ++ spelling.exponent.elim [] Exponent.characters

def characters (spelling : Spelling) : List Char :=
  spelling.sign.characters ++ spelling.magnitude

theorem characters_ne_nil (spelling : Spelling) : spelling.characters ≠ [] := by
  intro empty
  have figures := (List.append_eq_nil_iff.mp (List.append_eq_nil_iff.mp empty).2).1
  exact spelling.figures.characters_ne_nil figures

/-- The decimal, without its sign, if the digits of the exponent give a number of some size. -/
def decimalBy (size : List Char → Nat) (spelling : Spelling) : Decimal :=
  spelling.figures.decimal.shift (spelling.exponent.elim 0 (Exponent.valueBy size))

/-- The decimal that is written, without its sign. -/
def decimal (spelling : Spelling) : Decimal :=
  spelling.figures.decimal.shift (spelling.exponent.elim 0 Exponent.value)

/-- The decimal that is read, without its sign. -/
def taken (spelling : Spelling) : Decimal :=
  spelling.figures.decimal.shift (spelling.exponent.elim 0 Exponent.taken)

theorem decimalBy_readWhole : decimalBy readWhole = decimal :=
  rfl

theorem decimalBy_exponentMagnitude : decimalBy Decimal.exponentMagnitude = taken := by
  funext spelling
  rw [decimalBy, Exponent.valueBy_exponentMagnitude, taken]

end Spelling

/-! ## Reading signs -/

namespace Decimal

theorem readSign_of_head {text : List Char} (plus : text.head? ≠ some '+')
    (minus : text.head? ≠ some '-') : readSign text = (false, text) := by
  unfold readSign
  split
  · exact absurd rfl plus
  · exact absurd rfl minus
  · rfl

theorem readSign_signed (sign : Sign) {text : List Char}
    (unsigned : readSign text = (false, text)) :
    readSign (sign.characters ++ text) = (sign.isMinus, text) := by
  cases sign with
  | absent => exact unsigned
  | plus | minus => rfl

theorem exists_sign (text : List Char) :
    ∃ (sign : Sign) (magnitude : List Char), readSign text = (sign.isMinus, magnitude) ∧
      text = sign.characters ++ magnitude := by
  unfold readSign
  split
  · exact ⟨.plus, _, rfl, rfl⟩
  · exact ⟨.minus, _, rfl, rfl⟩
  · exact ⟨.absent, _, rfl, rfl⟩

/-! ## Reading digits -/

theorem dropWhile_of_forall_head {wanted : Char → Bool} {digits rest : List Char}
    (all : ∀ digit ∈ digits, wanted digit = true)
    (stop : ∀ character ∈ rest.head?, wanted character = false) :
    (digits ++ rest).dropWhile wanted = rest ∧ (digits ++ rest).takeWhile wanted = digits := by
  rw [List.dropWhile_append_of_pos all, List.takeWhile_append_of_pos all]
  cases rest with
  | nil => simp
  | cons first others =>
      have refused := stop first rfl
      simp [refused]

section Figures

variable {text rest : List Char} {decimal : Decimal}

theorem readDigits?_figures (figures : Figures)
    (stop : ∀ character ∈ rest.head?, character.isDigit = false ∧ character ≠ '.') :
    readDigits? (figures.characters ++ rest) = some (figures.decimal, rest) := by
  have stopDigits : ∀ character ∈ rest.head?, character.isDigit = false :=
    fun character first => (stop character first).1
  have point (others : List Char) :
      ∀ character ∈ ('.' :: others).head?, character.isDigit = false := by
    rintro _ ⟨⟩
    rfl
  unfold readDigits?
  match figures with
  | .leading whole none =>
      obtain ⟨dropped, taken⟩ := dropWhile_of_forall_head whole.all stopDigits
      rw [Figures.characters, dropped, taken]
      split
      · next others => exact absurd rfl (stop '.' rfl).2
      · rw [if_neg whole.nonempty]
        rfl
  | .leading whole (some places) =>
      obtain ⟨dropped, taken⟩ := dropWhile_of_forall_head whole.all (point (places ++ rest))
      obtain ⟨placesDropped, placesTaken⟩ := dropWhile_of_forall_head places.2 stopDigits
      rw [Figures.characters, List.append_assoc, List.cons_append, dropped, taken]
      simp only [placesDropped, placesTaken]
      rw [if_neg fun both => whole.nonempty both.1]
      rfl
  | .trailing places =>
      obtain ⟨placesDropped, placesTaken⟩ := dropWhile_of_forall_head places.all stopDigits
      obtain ⟨dropped, taken⟩ := dropWhile_of_forall_head
        (show ∀ digit ∈ [], Char.isDigit digit = true from nofun)
        (point (places.characters ++ rest))
      rw [List.nil_append] at dropped taken
      rw [Figures.characters, List.cons_append, dropped, taken]
      simp only [placesDropped, placesTaken]
      rw [if_neg fun both => places.nonempty both.2]
      rfl

theorem exists_figures_of_readDigits? (read : readDigits? text = some (decimal, rest)) :
    ∃ figures : Figures, text = figures.characters ++ rest ∧ decimal = figures.decimal := by
  have digits (text : List Char) : ∀ digit ∈ text.takeWhile Char.isDigit, digit.isDigit = true :=
    List.all_eq_true.mp List.all_takeWhile
  have parts := List.takeWhile_append_dropWhile (p := Char.isDigit) (l := text)
  unfold readDigits? at read
  dsimp only at read
  split at read
  · next others point =>
    have otherParts := List.takeWhile_append_dropWhile (p := Char.isDigit) (l := others)
    by_cases empty : text.takeWhile Char.isDigit = []
    · by_cases bare : others.takeWhile Char.isDigit = []
      · rw [if_pos ⟨empty, bare⟩] at read
        exact absurd read nofun
      · rw [if_neg fun both => bare both.2] at read
        obtain ⟨rfl, rfl⟩ := Prod.mk.inj (Option.some.inj read)
        rw [empty, point] at parts
        refine ⟨.trailing ⟨_, bare, digits others⟩, ?_, ?_⟩
        · rw [Figures.characters, List.cons_append, otherParts]
          exact parts.symm
        · rw [empty]
          rfl
    · rw [if_neg fun both => empty both.1] at read
      obtain ⟨rfl, rfl⟩ := Prod.mk.inj (Option.some.inj read)
      refine ⟨.leading ⟨_, empty, digits text⟩ (some ⟨_, digits others⟩), ?_, rfl⟩
      rw [Figures.characters, List.append_assoc, List.cons_append, otherParts, ← point, parts]
  · by_cases empty : text.takeWhile Char.isDigit = []
    · rw [if_pos empty] at read
      exact absurd read nofun
    · rw [if_neg empty] at read
      obtain ⟨rfl, rfl⟩ := Prod.mk.inj (Option.some.inj read)
      exact ⟨.leading ⟨_, empty, digits text⟩ none, parts.symm, rfl⟩

end Figures

/-! ## Reading exponents -/

/-- Reads a whole text as an exponent, the digits of which give a number of some size. -/
def readExponentBy? (size : List Char → Nat) : List Char → Option Int
  | [] => some 0
  | mark :: rest =>
      let (negative, digits) := readSign rest
      if (mark = 'e' ∨ mark = 'E') ∧ digits ≠ [] ∧ digits.all Char.isDigit then
        let magnitude : Int := size digits
        some (if negative then -magnitude else magnitude)
      else
        none

/-- Reads a whole text as a decimal without a sign.  The digits of its exponent give a number of some
size, be it what they write or what is heeded of them. -/
def ofTextBy? (size : List Char → Nat) (text : List Char) : Option Decimal := do
  let (decimal, rest) ← readDigits? text
  let exponent ← readExponentBy? size rest
  return decimal.shift exponent

theorem ofTextBy?_exponentMagnitude : ofTextBy? exponentMagnitude = ofText? := by
  have exponents : readExponentBy? exponentMagnitude = readExponent? := by
    funext text
    cases text <;> rfl
  funext text
  rw [ofTextBy?, exponents, ofText?]

section Exponents

variable {size : List Char → Nat} {text : List Char} {decimal : Decimal} {power : Int}

theorem readExponentBy?_characters (size : List Char → Nat) (exponent : Exponent) :
    readExponentBy? size exponent.characters = some (exponent.valueBy size) := by
  have head {mark : Char} (other : mark.isDigit = false) :
      exponent.digits.characters.head? ≠ some mark := by
    intro first
    have digit := exponent.digits.all mark (List.mem_of_head? first)
    exact absurd (digit.symm.trans other) nofun
  have unsigned := readSign_of_head (head (by decide)) (head (by decide))
  have signed := readSign_signed exponent.sign unsigned
  have spelled : (exponent.mark = 'e' ∨ exponent.mark = 'E') ∧ exponent.digits.characters ≠ [] ∧
      exponent.digits.characters.all Char.isDigit = true :=
    ⟨exponent.marks, exponent.digits.nonempty, List.all_eq_true.mpr exponent.digits.all⟩
  rw [Exponent.characters, readExponentBy?, signed]
  dsimp only
  rw [if_pos spelled]
  rfl

theorem exists_exponent_of_readExponentBy? (read : readExponentBy? size text = some power) :
    ∃ exponent : Option Exponent, text = exponent.elim [] Exponent.characters ∧
      power = exponent.elim 0 (Exponent.valueBy size) := by
  cases text with
  | nil =>
      obtain rfl := Option.some.inj read
      exact ⟨none, rfl, rfl⟩
  | cons mark rest =>
      obtain ⟨sign, digits, signed, parts⟩ := exists_sign rest
      rw [readExponentBy?, signed] at read
      dsimp only at read
      split at read
      · next spelled =>
        obtain ⟨marks, nonempty, all⟩ := spelled
        obtain rfl := Option.some.inj read
        refine ⟨some ⟨mark, marks, sign, ⟨_, nonempty, List.all_eq_true.mp all⟩⟩, ?_, rfl⟩
        exact congrArg (List.cons mark) parts
      · cases read

/-! ## Reading decimals -/

theorem ofTextBy?_magnitude (size : List Char → Nat) (spelling : Spelling) :
    ofTextBy? size spelling.magnitude = some (spelling.decimalBy size) := by
  obtain ⟨sign, figures, exponent⟩ := spelling
  cases exponent with
  | none =>
      have read : readDigits? (figures.characters ++ []) = some (figures.decimal, []) :=
        readDigits?_figures figures nofun
      rw [ofTextBy?, Spelling.magnitude]
      dsimp only [Option.elim_none]
      rw [read]
      rfl
  | some exponent =>
      have read : readDigits? (figures.characters ++ exponent.characters) =
          some (figures.decimal, exponent.characters) := by
        apply readDigits?_figures
        rintro _ ⟨⟩
        rcases exponent.marks with mark | mark
        · rw [mark]
          decide
        · rw [mark]
          decide
      rw [ofTextBy?, Spelling.magnitude]
      dsimp only [Option.elim_some]
      rw [read]
      dsimp only [bind, Option.bind]
      rw [readExponentBy?_characters]
      rfl

theorem exists_spelling_of_ofTextBy? (sign : Sign) (read : ofTextBy? size text = some decimal) :
    ∃ spelling : Spelling, spelling.sign = sign ∧ text = spelling.magnitude ∧
      decimal = spelling.decimalBy size := by
  unfold ofTextBy? at read
  simp only [bind, Option.bind_eq_some_iff, Prod.exists] at read
  obtain ⟨digits, rest, first, power, second, shifted⟩ := read
  obtain rfl := Option.some.inj shifted
  obtain ⟨figures, rfl, rfl⟩ := exists_figures_of_readDigits? first
  obtain ⟨exponent, rfl, rfl⟩ := exists_exponent_of_readExponentBy? second
  exact ⟨⟨sign, figures, exponent⟩, rfl, rfl, rfl⟩

theorem ofText?_magnitude (spelling : Spelling) :
    ofText? spelling.magnitude = some spelling.taken := by
  rw [← ofTextBy?_exponentMagnitude, ofTextBy?_magnitude, Spelling.decimalBy_exponentMagnitude]

end Exponents

end Decimal

end LineCalc
