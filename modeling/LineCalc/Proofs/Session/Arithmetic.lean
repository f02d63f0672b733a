import LineCalc.Proofs.Session.Atomic

/-!
# Flat arithmetic

A line of numbers with operators between them is computed in one pass from left to right.  The term
that is being read is carried along, and so is the sum of the terms before it with the operator in
front of it.  That operator is applied when the term has ended, at the next operator between terms
or at the end of the line.
-/

namespace LineCalc

namespace Operator

/-- How the operator is written. -/
def symbol : Operator → Char
  | add => '+'
  | sub => '-'
  | mul => '*'
  | div => '/'
  | rem => '%'

/-- Does the operator stand between terms? -/
def isAdditive : Operator → Bool
  | add | sub => true
  | mul | div | rem => false

/-- The operator between two numbers. -/
def compute : Operator → Double → Double → Double
  | add => Double.add
  | sub => Double.sub
  | mul => Double.mul
  | div => Double.div
  | rem => Double.rem

theorem apply_number (operator : Operator) (left right : Double) :
    operator.apply (.number left) (.number right) = .number (operator.compute left right) := by
  cases operator <;> rfl

theorem additive?_symbol {operator : Operator} (between : operator.isAdditive = true) :
    additive? operator.symbol = some operator := by
  cases operator with
  | add | sub => rfl
  | mul | div | rem => exact absurd between nofun

theorem multiplicative?_symbol {operator : Operator} (inside : operator.isAdditive = false) :
    multiplicative? operator.symbol = some operator := by
  cases operator with
  | add | sub => exact absurd inside nofun
  | mul | div | rem => rfl

end Operator

/-- A number as it is written. -/
structure Numeral where
  whole : Run Char.isDigit
  places : Option (Run Char.isDigit)

namespace Numeral

def token (numeral : Numeral) : Token :=
  .number numeral.whole numeral.places

/-- The double that is written. -/
def amount (numeral : Numeral) : Double :=
  (Decimal.ofDigits numeral.whole.characters
    (numeral.places.elim [] Run.characters)).toDouble false

end Numeral

/-- An operator with the number behind it. -/
structure Link where
  operator : Operator
  numeral : Numeral

def Link.tokens (link : Link) : List Token :=
  [.symbol link.operator.symbol, link.numeral.token]

/-! ## One pass -/

/-- What is carried along the line. -/
structure Tally where
  /-- The sum of the terms before the current one, and the operator in front of the current one. -/
  pending : Option (Double × Operator)
  /-- The current term as far as it has been read. -/
  term : Double

namespace Tally

/-- The sum of all terms. -/
def total (tally : Tally) : Double :=
  match tally.pending with
  | none => tally.term
  | some (sum, operator) => operator.compute sum tally.term

/-- Goes on with an operator and the number behind it. -/
def step (tally : Tally) (operator : Operator) (number : Double) : Tally :=
  if operator.isAdditive then ⟨some (tally.total, operator), number⟩
  else { tally with term := operator.compute tally.term number }

/-- Goes on with several operators and numbers. -/
def run (tally : Tally) (links : List Link) : Tally :=
  links.foldl (fun tally link => tally.step link.operator link.numeral.amount) tally

/-- Before the first operator. -/
def start (first : Numeral) : Tally :=
  ⟨none, first.amount⟩

/-! ## Trees of what has been read -/

/-- The tokens read so far have the tally: they make up a term, or a sum that is followed by an
operator and a term. -/
inductive Carries (scope : Scope) : Tally → List Token → Prop
  | first {number : Double} (term : Tree .term) :
      Evaluates scope term Effects.none [] (.value (.number number)) Effects.none →
      Carries scope ⟨none, number⟩ term.tokens
  | later {sum number : Double} (left : Tree .expression) (operator : Operator)
      (term : Tree .term) : operator.isAdditive = true →
      Evaluates scope left Effects.none [] (.value (.number sum)) Effects.none →
      Evaluates scope term Effects.none [] (.value (.number number)) Effects.none →
      Carries scope ⟨some (sum, operator), number⟩
        (left.tokens ++ .symbol operator.symbol :: term.tokens)

variable {scope : Scope} {tally : Tally} {tokens : List Token}

theorem carries_start (scope : Scope) (first : Numeral) :
    Carries scope (start first) [first.token] :=
  .first (.factor (.number first.whole first.places)) (.factor (.number _ _ _))

/-- What has been read is an expression. -/
theorem Carries.total (carries : Carries scope tally tokens) :
    ∃ tree : Tree .expression, tree.tokens = tokens ∧
      Evaluates scope tree Effects.none [] (.value (.number tally.total)) Effects.none := by
  cases carries with
  | first term evaluates => exact ⟨.term term, rfl, .term evaluates⟩
  | @later sum number left operator term between leftEvaluates evaluates =>
      let tree : Tree .expression :=
        .additive left operator.symbol operator (Operator.additive?_symbol between) term
      have joined : Evaluates scope tree Effects.none [] _ Effects.none :=
        .additive leftEvaluates evaluates
      rw [operator.apply_number] at joined
      exact ⟨tree, rfl, joined⟩

/-- A factor is taken into the term. -/
theorem evaluates_factor {term : Tree .term} {number : Double}
    (evaluates : Evaluates scope term Effects.none [] (.value (.number number)) Effects.none)
    {link : Link} (inside : link.operator.isAdditive = false) :
    ∃ longer : Tree .term, longer.tokens = term.tokens ++ link.tokens ∧
      Evaluates scope longer Effects.none []
        (.value (.number (link.operator.compute number link.numeral.amount))) Effects.none := by
  let longer : Tree .term :=
    .multiplicative term link.operator.symbol link.operator (Operator.multiplicative?_symbol inside)
      (.number link.numeral.whole link.numeral.places)
  have joined : Evaluates scope longer Effects.none [] _ Effects.none :=
    .multiplicative evaluates (.number _ _ _)
  rw [link.operator.apply_number] at joined
  exact ⟨longer, rfl, joined⟩

theorem Carries.step (carries : Carries scope tally tokens) (link : Link) :
    Carries scope (tally.step link.operator link.numeral.amount) (tokens ++ link.tokens) := by
  cases between : link.operator.isAdditive with
  | true =>
      rw [Tally.step, if_pos between]
      obtain ⟨left, rfl, evaluates⟩ := carries.total
      exact .later left link.operator (.factor (.number link.numeral.whole link.numeral.places))
        between evaluates (.factor (.number _ _ _))
  | false =>
      rw [Tally.step, if_neg (by simp [between])]
      cases carries with
      | first term evaluates =>
          obtain ⟨longer, written, evaluates⟩ := evaluates_factor evaluates between
          rw [← written]
          exact .first longer evaluates
      | later left operator term additive leftEvaluates evaluates =>
          obtain ⟨longer, written, evaluates⟩ := evaluates_factor evaluates between
          rw [List.append_assoc, List.cons_append, ← written]
          exact .later left operator longer additive leftEvaluates evaluates

theorem Carries.run (carries : Carries scope tally tokens) (links : List Link) :
    Carries scope (tally.run links) (tokens ++ links.flatMap Link.tokens) := by
  induction links generalizing tally tokens with
  | nil => simpa [Tally.run] using carries
  | cons link others ih =>
      rw [List.flatMap_cons, ← List.append_assoc]
      exact ih (carries.step link)

end Tally

namespace Session

variable {line : String} {first : Numeral} {links : List Link}

/-- A line of numbers with operators between them, and with blanks anywhere between these, gives the
total of one pass from left to right.  It asks nothing of the console and changes no variable. -/
theorem evaluate_flat (flat : IsLine line (first.token :: links.flatMap Link.tokens))
    (noise : Noise) (session : Session) :
    session.evaluate noise line =
      ⟨.ok (some (.number ((Tally.start first).run links).total)), [], session⟩ := by
  obtain ⟨tree, written, evaluates⟩ :=
    ((Tally.carries_start ⟨session.bindings, noise⟩ first).run links).total
  have derives : tree.Derives line := by
    rw [Tree.Derives, written]
    exact flat
  rw [evaluate_of_reading (.expression tree derives evaluates)]
  rfl

/-- In exact numbers this would be zero. -/
theorem evaluate_flat_tenths :
    let zero : Run Char.isDigit := ⟨['0'], by decide, forall_mem_of_all (by decide)⟩
    let one : Run Char.isDigit := ⟨['1'], by decide, forall_mem_of_all (by decide)⟩
    let nine : Run Char.isDigit := ⟨['9'], by decide, forall_mem_of_all (by decide)⟩
    let ten : Run Char.isDigit := ⟨['1', '0'], by decide, forall_mem_of_all (by decide)⟩
    let links : List Link := [⟨.sub, ⟨zero, some nine⟩⟩, ⟨.sub, ⟨zero, some one⟩⟩,
      ⟨.mul, ⟨ten, none⟩⟩, ⟨.div, ⟨ten, none⟩⟩]
    let total := ((Tally.start ⟨one, none⟩).run links).total
    IsLine "1-0.9 -\t0.1* 10 /10 " ((Numeral.token ⟨one, none⟩) :: links.flatMap Link.tokens) ∧
      fresh.evaluate (fun _ => .nan) "1-0.9 -\t0.1* 10 /10 " =
        ⟨.ok (some (.number total)), [], fresh⟩ ∧
      total.display = "-2.7755575615628914e-17" := by
  intro zero one nine ten links total
  have flat : IsLine "1-0.9 -\t0.1* 10 /10 "
      ((Numeral.token ⟨one, none⟩) :: links.flatMap Link.tokens) :=
    ⟨_, [' '], rfl,
      @Spelled.cons [] _ _ _ (by decide) <| @Spelled.cons [] _ _ _ (by decide) <|
      @Spelled.cons [] _ _ _ (by decide) <| @Spelled.cons [' '] _ _ _ (by decide) <|
      @Spelled.cons ['\t'] _ _ _ (by decide) <| @Spelled.cons [] _ _ _ (by decide) <|
      @Spelled.cons [' '] _ _ _ (by decide) <| @Spelled.cons [' '] _ _ _ (by decide) <|
      @Spelled.cons [] _ _ _ (by decide) .nil, by decide⟩
  exact ⟨flat, evaluate_flat flat _ _, by decide +kernel⟩

end Session

end LineCalc
