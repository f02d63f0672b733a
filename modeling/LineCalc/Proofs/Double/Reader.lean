import LineCalc.Proofs.Decimal.Range
import LineCalc.Proofs.Double.Display

/-!
# Readers of doubles

Readers of doubles take the spellings of decimals and some words for infinities and for not-a-number
in any case of their letters.  A look at the characters keeps the words from such a reader, which is
asked for the rest.  What texts stand for then follows from the grammar of the reader and from its
rounding.
-/

namespace LineCalc

/-- The text, which has no blanks around it, stands for the number. -/
inductive StandsFor : List Char → Double → Prop
  | empty : StandsFor [] (.zero false)
  | infinity (sign : Sign) :
      StandsFor (sign.characters ++ "Infinity".toList) (.infinite sign.isMinus)
  | decimal (spelling : Spelling) :
      StandsFor spelling.characters (.ofRat spelling.sign.isMinus spelling.toRat)

variable {text : String} {body magnitude : List Char} {negative : Bool} {number : Double}

theorem StandsFor.ne_nan (stands : StandsFor body number) : number ≠ .nan := by
  cases stands with
  | empty | infinity sign => exact nofun
  | decimal spelling =>
      rw [← spelling.toDouble_decimal]
      exact spelling.decimal.toDouble_ne_nan _

/-! ## Characters of decimals -/

/-- The characters besides digits that decimals are spelled with. -/
def decimalMarks : List Char :=
  ['.', 'e', 'E', '+', '-']

/-- Is the character one that decimals are spelled with? -/
def isDecimalChar (character : Char) : Bool :=
  character.isDigit || decimalMarks.contains character

theorem isDecimalChar_iff {character : Char} :
    isDecimalChar character = true ↔ character.isDigit = true ∨ character ∈ decimalMarks := by
  rw [isDecimalChar, Bool.or_eq_true, List.contains_iff_mem]

theorem isDecimalChar_toLower {character : Char} (spelled : isDecimalChar character = true) :
    isDecimalChar character.toLower = true := by
  rcases isDecimalChar_iff.mp spelled with digit | mark
  · have kept : character.toLower = character := by
      obtain ⟨_, high⟩ := isDigit_iff.mp digit
      apply dif_neg
      rintro ⟨low, _⟩
      have letter : 65 ≤ character.toNat := low
      omega
    rwa [kept]
  · have lower : ∀ mark ∈ decimalMarks, isDecimalChar mark.toLower = true :=
      forall_mem_of_all (by decide)
    exact lower character mark

theorem isBlank_of_isDecimalChar {character : Char} (spelled : isDecimalChar character = true) :
    Text.isBlank character = false := by
  rcases isDecimalChar_iff.mp spelled with digit | mark
  · exact isBlank_of_isDigit digit
  · have visible : ∀ mark ∈ decimalMarks, Text.isBlank mark = false :=
      forall_mem_of_all (by decide)
    exact visible character mark

/-- All characters of the text are such that decimals are spelled with. -/
def DecimalText (text : List Char) : Prop :=
  ∀ character ∈ text, isDecimalChar character = true

namespace DecimalText

variable {left right : List Char}

theorem of_digits {text : List Char} (all : ∀ digit ∈ text, digit.isDigit = true) :
    DecimalText text :=
  fun digit member => isDecimalChar_iff.mpr (.inl (all digit member))

theorem append_iff : DecimalText (left ++ right) ↔ DecimalText left ∧ DecimalText right :=
  List.forall_mem_append

theorem visible {text : List Char} (spelled : DecimalText text) :
    ∀ character ∈ text, Text.isBlank character = false :=
  fun character member => isBlank_of_isDecimalChar (spelled character member)

theorem cons {first : Char} (mark : first ∈ decimalMarks) (spelled : DecimalText right) :
    DecimalText (first :: right) :=
  List.forall_mem_cons.mpr ⟨isDecimalChar_iff.mpr (.inr mark), spelled⟩

end DecimalText

theorem Sign.decimalText_characters (sign : Sign) : DecimalText sign.characters := by
  cases sign with
  | absent => exact nofun
  | plus | minus => exact .cons (by decide) nofun

theorem Figures.decimalText_characters (figures : Figures) : DecimalText figures.characters := by
  match figures with
  | leading whole none => exact .of_digits whole.all
  | leading whole (some places) =>
      exact DecimalText.append_iff.mpr
        ⟨.of_digits whole.all, .cons (by decide) (.of_digits places.2)⟩
  | trailing places => exact .cons (by decide) (.of_digits places.all)

theorem Exponent.decimalText_characters (exponent : Exponent) : DecimalText exponent.characters := by
  have mark : exponent.mark ∈ decimalMarks := by
    rcases exponent.marks with is | is
    · rw [is]
      decide
    · rw [is]
      decide
  exact .cons mark (DecimalText.append_iff.mpr
    ⟨exponent.sign.decimalText_characters, .of_digits exponent.digits.all⟩)

theorem Spelling.decimalText_magnitude (spelling : Spelling) : DecimalText spelling.magnitude := by
  refine DecimalText.append_iff.mpr ⟨spelling.figures.decimalText_characters, ?_⟩
  cases spelling.exponent with
  | none => exact nofun
  | some exponent => exact exponent.decimalText_characters

theorem Spelling.decimalText_characters (spelling : Spelling) : DecimalText spelling.characters :=
  DecimalText.append_iff.mpr
    ⟨spelling.sign.decimalText_characters, spelling.decimalText_magnitude⟩

theorem Spelling.readSign_magnitude (spelling : Spelling) :
    Decimal.readSign spelling.magnitude = (false, spelling.magnitude) :=
  Decimal.readSign_of_ofText? (Decimal.ofText?_magnitude spelling)

theorem Spelling.readSign_characters (spelling : Spelling) :
    Decimal.readSign spelling.characters = (spelling.sign.isMinus, spelling.magnitude) :=
  Decimal.readSign_signed spelling.sign spelling.readSign_magnitude

/-- Only two kinds of texts that stand for numbers are not empty, whatever sign they have. -/
theorem StandsFor.magnitude_cases (stands : StandsFor body number)
    (signed : Decimal.readSign body = (negative, magnitude)) :
    body = [] ∨ magnitude = "Infinity".toList ∨
      ∃ spelling : Spelling, magnitude = spelling.magnitude := by
  cases stands with
  | empty => exact .inl rfl
  | infinity sign =>
      have unsigned : Decimal.readSign "Infinity".toList = (false, "Infinity".toList) := rfl
      rw [Decimal.readSign_signed sign unsigned] at signed
      exact .inr (.inl (congrArg Prod.snd signed).symm)
  | decimal spelling =>
      rw [spelling.readSign_characters] at signed
      exact .inr (.inr ⟨spelling, (congrArg Prod.snd signed).symm⟩)

/-! ## Words for special numbers -/

/-- The words that readers of doubles take for infinities and for not-a-number. -/
def doubleWords : List (List Char) :=
  ["inf".toList, "infinity".toList, "nan".toList]

/-- Is the text such a word, in any case of its letters? -/
def Worded (text : List Char) : Prop :=
  text.map Char.toLower ∈ doubleWords

instance (text : List Char) : Decidable (Worded text) :=
  inferInstanceAs (Decidable (_ ∈ _))

theorem Worded.not_decimalText (worded : Worded magnitude) : ¬ DecimalText magnitude := by
  intro spelled
  have lower : DecimalText (magnitude.map Char.toLower) :=
    List.forall_mem_map.mpr fun character member => isDecimalChar_toLower (spelled character member)
  have letter : ∀ word ∈ doubleWords, 'n' ∈ word := by decide
  exact absurd (lower 'n' (letter _ worded)) (by decide)

theorem Worded.readSign_eq (worded : Worded magnitude) :
    Decimal.readSign magnitude = (false, magnitude) := by
  have unsigned : ∀ word ∈ doubleWords, word.head? ≠ some '+' ∧ word.head? ≠ some '-' := by decide
  obtain ⟨plus, minus⟩ := unsigned _ worded
  apply Decimal.readSign_of_head
  · intro first
    exact plus (by rw [List.head?_map, first]; rfl)
  · intro first
    exact minus (by rw [List.head?_map, first]; rfl)

namespace Double

/-! ## What readers are asked for -/

/-- The reader takes the spellings of decimals, words for infinities and for not-a-number with or
without a sign, and nothing else. -/
def FollowsGrammar (read? : List Char → Option Double) : Prop :=
  ∀ text, (read? text).isSome = true ↔
    (∃ spelling : Spelling, text = spelling.characters) ∨
      ∃ (sign : Sign) (word : List Char), Worded word ∧ text = sign.characters ++ word

/-- If the reader takes a decimal, it takes it for the double nearest to what is written. -/
def RoundsCorrectly (read? : List Char → Option Double) : Prop :=
  ∀ (spelling : Spelling) (number : Double), read? spelling.characters = some number →
    number = ofRat spelling.sign.isMinus spelling.toRat

/-- The number of a text by a reader of doubles, which is asked only for texts with the
characters of decimals. -/
def ofTextBy (read? : List Char → Option Double) (text : String) : Double :=
  let body := Text.trim text.toList
  if body = [] then zero false
  else if body = "Infinity".toList ∨ body = "+Infinity".toList then infinite false
  else if body = "-Infinity".toList then infinite true
  else if body.all isDecimalChar then (read? body).getD nan
  else nan

section Reader

variable {read? other? : List Char → Option Double}

theorem FollowsGrammar.exists_spelling_iff (grammar : FollowsGrammar read?)
    (spelled : DecimalText body) :
    (read? body).isSome = true ↔ ∃ spelling : Spelling, body = spelling.characters := by
  rw [grammar body]
  refine or_iff_left ?_
  rintro ⟨sign, word, worded, rfl⟩
  exact worded.not_decimalText (DecimalText.append_iff.mp spelled).2

theorem FollowsGrammar.eq_none (grammar : FollowsGrammar read?) (spelled : DecimalText body)
    (other : ¬ ∃ spelling : Spelling, body = spelling.characters) : read? body = none :=
  Option.not_isSome_iff_eq_none.mp (mt (grammar.exists_spelling_iff spelled).mp other)

theorem FollowsGrammar.read?_characters (grammar : FollowsGrammar read?)
    (correct : RoundsCorrectly read?) (spelling : Spelling) :
    read? spelling.characters = some (ofRat spelling.sign.isMinus spelling.toRat) := by
  obtain ⟨number, read⟩ := Option.isSome_iff_exists.mp ((grammar _).mpr (.inl ⟨spelling, rfl⟩))
  rw [read, correct spelling number read]

theorem ofTextBy_of_decimalText (nonempty : Text.trim text.toList ≠ [])
    (spelled : DecimalText (Text.trim text.toList)) :
    ofTextBy read? text = (read? (Text.trim text.toList)).getD nan := by
  have other {word : List Char} (letter : 'n' ∈ word) : Text.trim text.toList ≠ word := by
    rintro rfl
    exact absurd (spelled 'n' letter) (by decide)
  rw [ofTextBy, if_neg nonempty, if_neg (not_or.mpr ⟨other (by decide), other (by decide)⟩),
    if_neg (other (by decide)), if_pos (List.all_eq_true.mpr spelled)]

/-- What a reader makes of texts with other characters does not matter. -/
theorem ofTextBy_congr
    (same : DecimalText (Text.trim text.toList) →
      read? (Text.trim text.toList) = other? (Text.trim text.toList)) :
    ofTextBy read? text = ofTextBy other? text := by
  by_cases spelled : (Text.trim text.toList).all isDecimalChar = true
  · simp only [ofTextBy, same (List.all_eq_true.mp spelled)]
  · simp only [ofTextBy, if_neg spelled]

/-! ## What texts stand for -/

theorem ofTextBy_of_trim_eq {spelling : Spelling}
    (trimmed : Text.trim text.toList = spelling.characters) :
    ofTextBy read? text = (read? spelling.characters).getD nan := by
  rw [← trimmed]
  apply ofTextBy_of_decimalText
  · rw [trimmed]
    exact spelling.characters_ne_nil
  · rw [trimmed]
    exact spelling.decimalText_characters

theorem ofTextBy_of_infinity {sign : Sign}
    (trimmed : Text.trim text.toList = sign.characters ++ "Infinity".toList) :
    ofTextBy read? text = infinite sign.isMinus := by
  rw [ofTextBy, trimmed]
  cases sign <;> rfl

theorem ofTextBy_of_standsFor (grammar : FollowsGrammar read?) (correct : RoundsCorrectly read?)
    (stands : StandsFor (Text.trim text.toList) number) : ofTextBy read? text = number := by
  generalize trimmed : Text.trim text.toList = body at stands
  cases stands with
  | empty => exact if_pos trimmed
  | infinity sign => exact ofTextBy_of_infinity trimmed
  | decimal spelling =>
      rw [ofTextBy_of_trim_eq trimmed, grammar.read?_characters correct]
      rfl

/-- How the reader rounds does not matter for what is accepted. -/
theorem exists_standsFor (grammar : FollowsGrammar read?) (accepted : ofTextBy read? text ≠ nan) :
    ∃ number, StandsFor (Text.trim text.toList) number := by
  unfold ofTextBy at accepted
  generalize Text.trim text.toList = body at accepted
  dsimp only at accepted
  split at accepted
  · next empty =>
    subst empty
    exact ⟨_, .empty⟩
  split at accepted
  · next above =>
    rcases above with rfl | rfl
    · exact ⟨_, .infinity .absent⟩
    · exact ⟨_, .infinity .plus⟩
  split at accepted
  · next below =>
    subst below
    exact ⟨_, .infinity .minus⟩
  split at accepted
  · next spelled =>
    -- The reader takes words too, but none with only these characters.
    have spelled : DecimalText body := List.all_eq_true.mp spelled
    have taken : (read? body).isSome = true := by
      by_contra refused
      rw [Option.not_isSome_iff_eq_none.mp refused] at accepted
      exact accepted rfl
    obtain ⟨spelling, rfl⟩ := (grammar.exists_spelling_iff spelled).mp taken
    exact ⟨_, .decimal spelling⟩
  · exact absurd rfl accepted

theorem ofTextBy_of_worded (grammar : FollowsGrammar read?) {sign : Sign}
    (trimmed : Text.trim text.toList = sign.characters ++ magnitude) (worded : Worded magnitude)
    (other : magnitude ≠ "Infinity".toList) :
    (read? (Text.trim text.toList)).isSome = true ∧ ofTextBy read? text = nan := by
  refine ⟨(grammar _).mpr (.inr ⟨sign, magnitude, worded, trimmed⟩), ?_⟩
  by_contra accepted
  obtain ⟨number, stands⟩ := exists_standsFor grammar accepted
  rw [trimmed] at stands
  obtain empty | rfl | ⟨spelling, rfl⟩ :=
    stands.magnitude_cases (Decimal.readSign_signed sign worded.readSign_eq)
  · obtain ⟨_, rfl⟩ := List.append_eq_nil_iff.mp empty
    exact absurd worded (by decide)
  · exact other rfl
  · exact worded.not_decimalText spelling.decimalText_magnitude

end Reader

/-! ## Readers that take words in any case -/

/-- The number that a text is read as where words in any case of their letters are taken.  The digits
of an exponent give a number of some size. -/
def readAnyCase? (size : List Char → Nat) (text : List Char) : Option Double :=
  let (negative, magnitude) := Decimal.readSign text
  let word := magnitude.map Char.toLower
  if word = "inf".toList ∨ word = "infinity".toList then some (infinite negative)
  else if word = "nan".toList then some nan
  else (Decimal.ofTextBy? size magnitude).map (Decimal.toDouble negative)

section AnyCase

variable {size : List Char → Nat}

theorem readAnyCase?_of_not_worded (signed : Decimal.readSign body = (negative, magnitude))
    (other : ¬ Worded magnitude) :
    readAnyCase? size body = (Decimal.ofTextBy? size magnitude).map (Decimal.toDouble negative) := by
  simp only [Worded, doubleWords, List.mem_cons, List.not_mem_nil, or_false, not_or] at other
  obtain ⟨short, long, notNumber⟩ := other
  rw [readAnyCase?, signed]
  simp only
  rw [if_neg (not_or.mpr ⟨short, long⟩), if_neg notNumber]

theorem isSome_readAnyCase?_of_worded (signed : Decimal.readSign body = (negative, magnitude))
    (worded : Worded magnitude) : (readAnyCase? size body).isSome = true := by
  simp only [Worded, doubleWords, List.mem_cons, List.not_mem_nil, or_false] at worded
  rw [readAnyCase?, signed]
  simp only
  rcases worded with short | long | notNumber
  · rw [if_pos (.inl short)]
    rfl
  · rw [if_pos (.inr long)]
    rfl
  · rw [notNumber, if_neg (by decide), if_pos rfl]
    rfl

theorem readAnyCase?_characters (size : List Char → Nat) (spelling : Spelling) :
    readAnyCase? size spelling.characters =
      some ((spelling.decimalBy size).toDouble spelling.sign.isMinus) := by
  have other : ¬ Worded spelling.magnitude := fun worded =>
    worded.not_decimalText spelling.decimalText_magnitude
  rw [readAnyCase?_of_not_worded spelling.readSign_characters other,
    Decimal.ofTextBy?_magnitude]
  rfl

theorem followsGrammar_readAnyCase? (size : List Char → Nat) :
    FollowsGrammar (readAnyCase? size) := by
  intro text
  constructor
  · intro accepted
    obtain ⟨sign, magnitude, signed, parts⟩ := Decimal.exists_sign text
    by_cases worded : Worded magnitude
    · exact .inr ⟨sign, magnitude, worded, parts⟩
    · rw [readAnyCase?_of_not_worded signed worded, Option.isSome_map] at accepted
      obtain ⟨decimal, read⟩ := Option.isSome_iff_exists.mp accepted
      obtain ⟨spelling, rfl, rfl, _⟩ := Decimal.exists_spelling_of_ofTextBy? sign read
      exact .inl ⟨spelling, parts⟩
  · rintro (⟨spelling, rfl⟩ | ⟨sign, word, worded, rfl⟩)
    · rw [readAnyCase?_characters]
      rfl
    · exact isSome_readAnyCase?_of_worded (Decimal.readSign_signed sign worded.readSign_eq) worded

/-- If an exponent is what its digits write, what is read is the double nearest to what is written. -/
theorem roundsCorrectly_readAnyCase? : RoundsCorrectly (readAnyCase? readWhole) := by
  intro spelling number read
  rw [readAnyCase?_characters, Spelling.decimalBy_readWhole] at read
  obtain rfl := Option.some.inj read
  exact spelling.toDouble_decimal

/-- With a reader that heeds the digits of an exponent until they have reached `65536`, a text is
read as it is.  None of the words that such a reader takes gets as far as to it. -/
theorem ofTextBy_readAnyCase? : ofTextBy (readAnyCase? Decimal.exponentMagnitude) = ofText := by
  funext text
  by_cases empty : Text.trim text.toList = []
  · rw [ofTextBy, if_pos empty, ofText, empty]
  obtain ⟨sign, magnitude, signed, parts⟩ := Decimal.exists_sign (Text.trim text.toList)
  rw [ofText_eq empty signed, ← Decimal.ofTextBy?_exponentMagnitude]
  by_cases word : magnitude = "Infinity".toList
  · rw [if_pos word]
    exact ofTextBy_of_infinity (word ▸ parts)
  · rw [if_neg word]
    cases read : Decimal.ofTextBy? Decimal.exponentMagnitude magnitude with
    | some decimal =>
        obtain ⟨spelling, rfl, rfl, rfl⟩ := Decimal.exists_spelling_of_ofTextBy? sign read
        rw [ofTextBy_of_trim_eq parts, readAnyCase?_characters]
        rfl
    | none =>
        by_contra accepted
        obtain ⟨number, stands⟩ := exists_standsFor (followsGrammar_readAnyCase? _) accepted
        obtain nothing | rfl | ⟨spelling, rfl⟩ := stands.magnitude_cases signed
        · exact empty nothing
        · exact word rfl
        · rw [Decimal.ofTextBy?_magnitude] at read
          exact absurd read nofun

end AnyCase

/-! ## Texts as they are read -/

/-- What is spelled is read with the exponent that is heeded. -/
theorem ofText_of_trim_eq {spelling : Spelling}
    (trimmed : Text.trim text.toList = spelling.characters) :
    ofText text = spelling.taken.toDouble spelling.sign.isMinus := by
  rw [← ofTextBy_readAnyCase?, ofTextBy_of_trim_eq trimmed, readAnyCase?_characters,
    Spelling.decimalBy_exponentMagnitude]
  rfl

/-- How many digits of an exponent are heeded does not matter for what is accepted. -/
theorem ofText_ne_nan_iff :
    ofText text ≠ nan ↔ ∃ number, StandsFor (Text.trim text.toList) number := by
  constructor
  · rw [← ofTextBy_readAnyCase?]
    exact exists_standsFor (followsGrammar_readAnyCase? _)
  · rintro ⟨number, stands⟩
    generalize trimmed : Text.trim text.toList = body at stands
    cases stands with
    | empty =>
        rw [ofText, trimmed]
        exact nofun
    | infinity sign =>
        rw [← ofTextBy_readAnyCase?, ofTextBy_of_infinity trimmed]
        exact nofun
    | decimal spelling =>
        rw [ofText_of_trim_eq trimmed]
        exact spelling.taken.toDouble_ne_nan _

/-- Unless its exponent is far beyond the bound, a text is read as by any reader that rounds
correctly. -/
theorem ofText_eq_ofTextBy {read? : List Char → Option Double} (grammar : FollowsGrammar read?)
    (correct : RoundsCorrectly read?)
    (modest : ∀ spelling : Spelling, Text.trim text.toList = spelling.characters →
      spelling.Modest) :
    ofText text = ofTextBy read? text := by
  by_cases written : ∃ spelling : Spelling, Text.trim text.toList = spelling.characters
  · obtain ⟨spelling, trimmed⟩ := written
    rw [ofText_of_trim_eq trimmed, ofTextBy_of_trim_eq trimmed, grammar.read?_characters correct,
      (modest spelling trimmed).toDouble_taken]
    rfl
  · rw [← ofTextBy_readAnyCase?]
    refine ofTextBy_congr fun spelled => ?_
    have own := followsGrammar_readAnyCase? Decimal.exponentMagnitude
    rw [grammar.eq_none spelled written, own.eq_none spelled written]

end Double

/-! ## An exponent whose last digit is passed over -/

namespace Spelling

/-- A one, zeros behind it, and an exponent that says ten times as much as is heeded of it. -/
def outgrown (zeros : Nat) : Spelling where
  sign := .absent
  figures := .leading ⟨'1' :: List.replicate zeros '0', List.cons_ne_nil _ _,
    List.forall_mem_cons.mpr ⟨rfl, isDigit_zeros zeros⟩⟩ none
  exponent := some (.ofInt (-655360))

theorem characters_outgrown (zeros : Nat) :
    (outgrown zeros).characters = '1' :: (List.replicate zeros '0' ++ "e-655360".toList) := by
  have exponent : (Exponent.ofInt (-655360)).characters = "e-655360".toList := by decide
  rw [← exponent]
  rfl

theorem toRat_outgrown (zeros : Nat) (power : Int) :
    ((outgrown zeros).figures.decimal.shift power).toRat = Decimal.toRat ⟨1, zeros + power⟩ := by
  have digits : (outgrown zeros).figures.decimal.digits = 10 ^ zeros := by
    change readWhole (['1'] ++ List.replicate zeros '0' ++ []) = 10 ^ zeros
    rw [List.append_nil, readWhole_append_zeros]
    exact Nat.one_mul _
  have places : (outgrown zeros).figures.decimal.exponent = 0 := rfl
  rw [Decimal.toRat, Decimal.toRat, Decimal.shift, digits, places]
  push_cast
  rw [zero_add, one_mul, zpow_add₀ (by norm_num), zpow_natCast]

theorem toDouble_taken_outgrown (zeros : Nat) (negative : Bool) :
    (outgrown zeros).taken.toDouble negative =
      Decimal.toDouble negative ⟨1, zeros + -65536⟩ := by
  have power : (outgrown zeros).exponent.elim 0 Exponent.taken = -65536 := by
    change (Exponent.ofInt (-655360)).taken = -65536
    decide
  rw [taken, power]
  exact Decimal.toDouble_congr negative (toRat_outgrown zeros _)

theorem toDouble_decimal_outgrown (zeros : Nat) (negative : Bool) :
    (outgrown zeros).decimal.toDouble negative =
      Decimal.toDouble negative ⟨1, zeros + -655360⟩ := by
  have power : (outgrown zeros).exponent.elim 0 Exponent.value = -655360 :=
    Exponent.value_ofInt (-655360)
  rw [decimal, power]
  exact Decimal.toDouble_congr negative (toRat_outgrown zeros _)

/-- With as many zeros as places are taken away by the heeded digits, the text stands for one, while
it spells a number that is far less than any other double than zero. -/
theorem ofText_outgrown :
    let text := '1' :: (List.replicate 65536 '0' ++ "e-655360".toList)
    let spelling := outgrown 65536
    text = spelling.characters ∧ Double.ofText (String.ofList text) = .one ∧
      Double.ofRat spelling.sign.isMinus spelling.toRat = .zero false := by
  intro text spelling
  have written : text = spelling.characters := (characters_outgrown 65536).symm
  have trimmed : Text.trim (String.ofList text).toList = spelling.characters := by
    rw [String.toList_ofList, written]
    exact Text.trim_of_visible spelling.decimalText_characters.visible
  refine ⟨written, ?_, ?_⟩
  · rw [Double.ofText_of_trim_eq trimmed, toDouble_taken_outgrown]
    decide +kernel
  · rw [← toDouble_decimal, toDouble_decimal_outgrown]
    decide +kernel

end Spelling

end LineCalc
