import LineCalc.Proofs.Passage

/-!
# Words

A text is divided into words by its blanks.  The division is unique, and it is the one that
`Text.words` makes.
-/

namespace LineCalc.Text

/-- No character of the text is blank. -/
def Visible (text : List Char) : Prop :=
  ∀ character ∈ text, isBlank character = false

/-- The words make up the text, with blanks between them and perhaps around them. -/
inductive Words : List (List Char) → List Char → Prop
  | nil {blanks : List Char} : Blank blanks → Words [] blanks
  | cons {blanks word rest : List Char} {others : List (List Char)} :
      Blank blanks → word ≠ [] → Visible word →
      (∀ next, rest.head? = some next → isBlank next = true) → Words others rest →
      Words (word :: others) (blanks ++ word ++ rest)

variable {blanks word rest text : List Char}

/-- Characters that are not blank continue the word that has begun. -/
theorem wordsFrom_append (visible : Visible word) (begun rest : List Char) :
    wordsFrom begun (word ++ rest) = wordsFrom (word.reverse ++ begun) rest := by
  induction word generalizing begun with
  | nil => rfl
  | cons next word ih =>
      obtain ⟨here, behind⟩ := List.forall_mem_cons.mp visible
      rw [List.cons_append, wordsFrom, here, if_neg Bool.false_ne_true, ih behind]
      simp

theorem words_blanks_append (blank : Blank blanks) (rest : List Char) :
    words (blanks ++ rest) = words rest := by
  induction blanks with
  | nil => rfl
  | cons next blanks ih =>
      obtain ⟨here, behind⟩ := List.forall_mem_cons.mp blank
      rw [List.cons_append, words, wordsFrom, if_pos here, if_pos rfl]
      exact ih behind

theorem words_word_append (nonempty : word ≠ []) (visible : Visible word)
    (parted : ∀ next, rest.head? = some next → isBlank next = true) :
    words (word ++ rest) = word :: words rest := by
  have begun : word.reverse ++ [] ≠ [] := by simpa using nonempty
  rw [words, wordsFrom_append visible]
  cases rest with
  | nil => simp [wordsFrom, words, nonempty]
  | cons next others =>
      have blank : isBlank next = true := parted next rfl
      simp [wordsFrom, words, nonempty, blank]

/-- A text has nothing but blanks or begins, blanks apart, with a word. -/
theorem blank_or_exists_word (text : List Char) :
    Blank text ∨ ∃ blanks word rest, text = blanks ++ word ++ rest ∧ Blank blanks ∧ word ≠ [] ∧
      Visible word ∧ ∀ next, rest.head? = some next → isBlank next = true := by
  let behind := text.dropWhile isBlank
  have whole : text.takeWhile isBlank ++ behind = text := List.takeWhile_append_dropWhile
  have blank : Blank (text.takeWhile isBlank) := List.all_eq_true.mp List.all_takeWhile
  cases found : behind with
  | nil =>
      rw [found, List.append_nil] at whole
      exact .inl (whole ▸ blank)
  | cons first others =>
      have begins : isBlank first = false := by
        have refused := List.head?_dropWhile_not isBlank text
        rw [show text.dropWhile isBlank = first :: others from found] at refused
        simpa using refused
      refine .inr ⟨text.takeWhile isBlank, behind.takeWhile (!isBlank ·),
        behind.dropWhile (!isBlank ·), ?_, blank, ?_, ?_, ?_⟩
      · rw [List.append_assoc, List.takeWhile_append_dropWhile, whole]
      · simp [found, begins]
      · intro character member
        simpa using List.all_eq_true.mp List.all_takeWhile character member
      · intro next ahead
        have refused := List.head?_dropWhile_not (!isBlank ·) behind
        rw [ahead] at refused
        simpa using refused

theorem Words.words_eq {pieces : List (List Char)} (divided : Words pieces text) :
    words text = pieces := by
  induction divided with
  | @nil blanks blank =>
      have nothing := words_blanks_append blank []
      rwa [List.append_nil] at nothing
  | cons blank nonempty visible parted _ ih =>
      rw [List.append_assoc, words_blanks_append blank, words_word_append nonempty visible parted,
        ih]

theorem words_divide (text : List Char) : Words (words text) text := by
  rcases blank_or_exists_word text with blank |
    ⟨blanks, word, rest, rfl, blank, nonempty, visible, parted⟩
  · have divided : Words [] text := .nil blank
    rwa [divided.words_eq]
  · have shorter : rest.length < (blanks ++ word ++ rest).length := by
      have positive := List.length_pos_iff.mpr nonempty
      simp only [List.length_append]
      omega
    have divided : Words (word :: words rest) (blanks ++ word ++ rest) :=
      .cons blank nonempty visible parted (words_divide rest)
    rwa [divided.words_eq]
termination_by text.length

/-- The words of a text are the ones it is divided into by its blanks. -/
theorem words_eq_iff {pieces : List (List Char)} : words text = pieces ↔ Words pieces text :=
  ⟨fun same => same ▸ words_divide text, Words.words_eq⟩

end LineCalc.Text
