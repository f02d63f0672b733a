import LineCalc.Proofs.Double.Order
import LineCalc.Proofs.Double.Reader
import LineCalc.Proofs.Session.Fault
import LineCalc.Proofs.Session.Quotation
import LineCalc.Proofs.Session.Reentry

/-!
# Texts in place of numbers

Which texts stand for numbers, and for which ones: blank texts, three words for the infinities, and
the spellings of decimals.  This holds with any reader of doubles that follows its grammar and rounds
correctly.  The text of a literal stands for the number that the literal is.
-/

namespace LineCalc

/-! ## Literals -/

theorem Token.numeric_number (whole : Run Char.isDigit) (places : Option (Run Char.isDigit)) :
    Numeric (Token.number whole places).characters := by
  have digits (run : Run Char.isDigit) : Numeric run.characters :=
    fun digit member => .inl (run.all digit member)
  cases places with
  | none => exact digits whole
  | some places =>
      have point : Numeric ['.'] := by decide
      exact (digits whole).append (point.append (digits places))

theorem Token.trim_number (whole : Run Char.isDigit) (places : Option (Run Char.isDigit)) :
    Text.trim (String.ofList (Token.number whole places).characters).toList =
      (Spelling.number whole places).characters := by
  rw [String.toList_ofList, Spelling.characters_number]
  exact Text.trim_of_visible (Token.numeric_number whole places).visible

namespace Double

variable {read? : List Char → Option Double}
variable (whole : Run Char.isDigit) (places : Option (Run Char.isDigit))

theorem ofText_number :
    ofText (String.ofList (Token.number whole places).characters) =
      (Decimal.ofDigits whole.characters (places.elim [] Run.characters)).toDouble false := by
  rw [ofText_of_trim_eq (Token.trim_number whole places), Spelling.taken_number]
  rfl

theorem FollowsGrammar.read?_number (grammar : FollowsGrammar read?)
    (correct : RoundsCorrectly read?) :
    read? (Token.number whole places).characters =
      some ((Decimal.ofDigits whole.characters (places.elim [] Run.characters)).toDouble false) := by
  rw [← Spelling.characters_number, grammar.read?_characters correct, ← Spelling.toDouble_decimal,
    Spelling.decimal_number]
  rfl

theorem ofTextBy_number (grammar : FollowsGrammar read?) (correct : RoundsCorrectly read?) :
    ofTextBy read? (String.ofList (Token.number whole places).characters) =
      (Decimal.ofDigits whole.characters (places.elim [] Run.characters)).toDouble false := by
  rw [ofTextBy_of_trim_eq (Token.trim_number whole places), Spelling.characters_number,
    grammar.read?_number whole places correct]
  rfl

end Double

namespace Session

theorem evaluate_minus_minus {content : String} (unquoted : '"' ∉ content.toList) (noise : Noise)
    (session : Session) :
    session.evaluate noise ("--\"" ++ content ++ "\"") =
      ⟨.ok (some (.number (Double.ofText content))), [], session⟩ := by
  let tree : Tree .expression :=
    .term (.factor (.minus (.minus (.text content.toList unquoted))))
  have derives : tree.Derives ("--\"" ++ content ++ "\"") := by
    refine ⟨_, [], ?_, .cons (.symbol '-') .nil (.cons (.symbol '-') .nil
      (.cons (.text content.toList unquoted) .nil .nil)), .nil⟩
    simp [Token.characters]
  have reads : Reading ⟨session.bindings, noise⟩ ("--\"" ++ content ++ "\"")
      (.expression (.value (Value.text (String.ofList content.toList)).neg.neg)) [] :=
    .expression tree derives (.term (.factor (.minus (.minus (.text _ unquoted _)))))
  have value : (Value.text content).neg.neg = .number (Double.ofText content) :=
    congrArg Value.number (Double.neg_neg_eq _)
  rw [evaluate_of_reading reads, String.ofList_toList, value]
  rfl

/-- Let a reader of doubles follow the grammar of such readers and round correctly.  If it is asked,
a text stands for a number if and only if, without the blanks around it, it is empty, one of the
three words for infinities or the spelling of a decimal, whose nearest double it is then.  No other
word for an infinity or for not-a-number is accepted, though the reader takes them all.  With the
reader literals are read as they are, and the text of a literal stands for the number that the
literal is.  Texts are read as by a reader that heeds the digits of an exponent until they have
reached `65536`.  It accepts the same texts; if there are few digits besides, or the exponent is not
far beyond, it makes of them what every reader makes of them that rounds correctly. -/
theorem ofTextBy_follows_grammar {read? : List Char → Option Double}
    (grammar : Double.FollowsGrammar read?) (correct : Double.RoundsCorrectly read?) :
    (∀ text, Double.ofTextBy read? text ≠ .nan ↔
      ∃ number, StandsFor (Text.trim text.toList) number) ∧
    (∀ text number, StandsFor (Text.trim text.toList) number →
      Double.ofTextBy read? text = number) ∧
    (∀ (text : String) (sign : Sign) (word : List Char),
      Text.trim text.toList = sign.characters ++ word → Worded word → word ≠ "Infinity".toList →
        (read? (Text.trim text.toList)).isSome = true ∧ Double.ofTextBy read? text = .nan) ∧
    Rule.numberBy read? = Rule.number ∧
    (∀ (whole : Run Char.isDigit) (places : Option (Run Char.isDigit)) (noise : Noise)
      (session : Session),
      let text := String.ofList (Token.number whole places).characters
      let evaluation : Evaluation :=
        ⟨.ok (some (.number (Double.ofTextBy read? text))), [], session⟩
      session.evaluate noise text = evaluation ∧
        session.evaluate noise ("--\"" ++ text ++ "\"") = evaluation) ∧
    Double.ofTextBy (Double.readAnyCase? Decimal.exponentMagnitude) = Double.ofText ∧
    (∀ text, Double.ofText text ≠ .nan ↔
      ∃ number, StandsFor (Text.trim text.toList) number) ∧
    ∀ text, (∀ spelling : Spelling, Text.trim text.toList = spelling.characters →
      spelling.Modest) → Double.ofText text = Double.ofTextBy read? text := by
  refine ⟨?_, ?_, ?_, ?_, ?_, Double.ofTextBy_readAnyCase?, fun _ => Double.ofText_ne_nan_iff, ?_⟩
  · intro text
    constructor
    · exact Double.exists_standsFor grammar
    · rintro ⟨number, stands⟩
      rw [Double.ofTextBy_of_standsFor grammar correct stands]
      exact stands.ne_nan
  · exact fun text number => Double.ofTextBy_of_standsFor grammar correct
  · exact fun text sign word trimmed => Double.ofTextBy_of_worded grammar trimmed
  · exact Rule.numberBy_eq_number fun whole places => grammar.read?_number whole places correct
  · intro whole places noise session text evaluation
    have unquoted : '"' ∉ text.toList := by
      rw [String.toList_ofList]
      exact (Token.numeric_number whole places).unquoted
    have evaluated := evaluate_token whole places noise session
    have coerced := evaluate_minus_minus unquoted noise session
    rw [Double.ofText_number] at coerced
    dsimp only at evaluated
    rw [← Double.ofTextBy_number whole places grammar correct] at evaluated coerced
    exact ⟨evaluated, coerced⟩
  · exact fun text => Double.ofText_eq_ofTextBy grammar correct

/-- A number with a sign, an exponent and blanks around it, one of them a no-break space; a word with
a sign; and a literal. -/
theorem ofTextBy_follows_grammar_signed :
    let read? := Double.readAnyCase? readWhole
    let text := "\u00a0-1.5E3\t"
    let signed : Double := .finite true 6597069766656000 (-42) (by decide)
    let plain : Double := .finite false 7036874417766400 (-49) (by decide)
    Double.FollowsGrammar read? ∧ Double.RoundsCorrectly read? ∧
      Double.ofTextBy read? text = signed ∧
      (read? "-inf".toList).isSome = true ∧ Double.ofTextBy read? "-inf" = .nan ∧
      fresh.evaluate (fun _ => .nan) "12.50" = ⟨.ok (some (.number plain)), [], fresh⟩ ∧
      fresh.evaluate (fun _ => .nan) "--\"12.50\"" = ⟨.ok (some (.number plain)), [], fresh⟩ := by
  intro read? text signed plain
  have grammar : Double.FollowsGrammar read? := Double.followsGrammar_readAnyCase? readWhole
  have correct : Double.RoundsCorrectly read? := Double.roundsCorrectly_readAnyCase?
  let spelling : Spelling :=
    ⟨.minus, .leading ⟨['1'], by decide, forall_mem_of_all (by decide)⟩
        (some ⟨['5'], forall_mem_of_all (by decide)⟩),
      some ⟨'E', .inr rfl, .absent, ⟨['3'], by decide, forall_mem_of_all (by decide)⟩⟩⟩
  have stands : StandsFor (Text.trim text.toList) signed := by
    have trimmed : Text.trim text.toList = spelling.characters := by decide
    have nearest : Double.ofRat true spelling.toRat = signed := by
      have value : spelling.decimal.toDouble true = signed := by decide +kernel
      rw [← value]
      exact spelling.toDouble_decimal.symm
    rw [trimmed, ← nearest]
    exact .decimal spelling
  obtain ⟨_, gives, words, _, literals, _⟩ := ofTextBy_follows_grammar grammar correct
  obtain ⟨taken, refused⟩ := words "-inf" .minus "inf".toList (by decide) (by decide) (by decide)
  let whole : Run Char.isDigit := ⟨['1', '2'], by decide, forall_mem_of_all (by decide)⟩
  let places : Run Char.isDigit := ⟨['5', '0'], by decide, forall_mem_of_all (by decide)⟩
  obtain ⟨line, quoted⟩ := literals whole (some places) (fun _ => .nan) fresh
  have value : Double.ofTextBy read? "12.50" = plain := by decide +kernel
  have written : String.ofList (Token.number whole (some places)).characters = "12.50" := by decide
  rw [written, value] at line quoted
  exact ⟨grammar, correct, gives text signed stands, taken, refused, line, quoted⟩

end Session

end LineCalc
