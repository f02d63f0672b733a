import LineCalc.CommandLine.Run

/-!
# Readers

Lines that are prompted for come from a reader, which takes them from the standard input one at a
time.  The reader of typed lines also carries out backspaces; where there are none, it returns the
lines of the text.
-/

namespace LineCalc

namespace Text

variable {line : List Char}

/-! ## Lines -/

theorem linesFrom_append (unbroken : '\n' ∉ line) (begun rest : List Char) :
    linesFrom begun (line ++ rest) = linesFrom (line.reverse ++ begun) rest := by
  induction line generalizing begun with
  | nil => rfl
  | cons next line ih =>
      obtain ⟨here, behind⟩ := List.ne_and_not_mem_of_not_mem_cons unbroken
      rw [List.cons_append, linesFrom, if_neg here.symm, ih behind]
      simp

/-- A newline ends a line, and so does a carriage return with the newline behind it. -/
theorem lines_append_newline (unbroken : '\n' ∉ line) (rest : List Char) :
    lines (line ++ '\n' :: rest) = dropReturn line :: lines rest := by
  rw [lines, linesFrom_append unbroken, linesFrom, if_pos rfl, List.append_nil,
    List.reverse_reverse]
  rfl

/-- What is behind the last newline is a line as it is. -/
theorem lines_of_unbroken (unbroken : '\n' ∉ line) (nonempty : line ≠ []) :
    lines line = [line] := by
  have whole := linesFrom_append unbroken [] []
  rw [List.append_nil] at whole
  simp [lines, whole, linesFrom, nonempty]

/-- A text has no newline, or one that ends its first line. -/
theorem unbroken_or_exists_newline (text : List Char) :
    '\n' ∉ text ∨ ∃ line rest, text = line ++ '\n' :: rest ∧ '\n' ∉ line :=
  (Classical.em ('\n' ∈ text)).symm.imp_right List.eq_append_cons_of_mem

theorem length_lt_append_newline (line rest : List Char) :
    rest.length < (line ++ '\n' :: rest).length := by
  simp only [List.length_append, List.length_cons]
  omega

theorem mem_of_mem_dropReturn {character : Char} (held : character ∈ dropReturn line) :
    character ∈ line := by
  unfold dropReturn at held
  split at held
  · exact (List.dropLast_sublist line).subset held
  · exact held

theorem mem_of_mem_lines {text : List Char} {character : Char} (member : line ∈ lines text)
    (held : character ∈ line) : character ∈ text := by
  rcases unbroken_or_exists_newline text with unbroken | ⟨first, rest, rfl, unbroken⟩
  · by_cases empty : text = []
    · subst empty
      exact absurd member List.not_mem_nil
    · rw [lines_of_unbroken unbroken empty, List.mem_singleton] at member
      exact member ▸ held
  · rw [lines_append_newline unbroken, List.mem_cons] at member
    have shorter := length_lt_append_newline first rest
    rw [List.mem_append]
    rcases member with rfl | later
    · exact .inl (mem_of_mem_dropReturn held)
    · exact .inr (List.mem_cons_of_mem _ (mem_of_mem_lines later held))
termination_by text.length

/-! ## Backspaces -/

theorem flatten_clustersFrom (context : Grapheme.Context) (begun text : List Char) :
    (Grapheme.clustersFrom context begun text).flatten = begun.reverse ++ text := by
  induction text generalizing context begun with
  | nil =>
      rw [Grapheme.clustersFrom]
      split <;> simp_all
  | cons character text ih =>
      rw [Grapheme.clustersFrom]
      split <;> simp [ih]

theorem foldl_keep {clusters : List (List Char)} (kept : List (List Char))
    (none : ['\x08'] ∉ clusters) : clusters.foldl keep kept = clusters.reverse ++ kept := by
  induction clusters generalizing kept with
  | nil => rfl
  | cons cluster clusters ih =>
      obtain ⟨here, behind⟩ := List.ne_and_not_mem_of_not_mem_cons none
      rw [List.foldl_cons, keep, if_neg here.symm, ih _ behind]
      simp

/-- Without backspaces, nothing is erased. -/
theorem erase_of_not_mem (none : '\x08' ∉ line) : erase line = line := by
  have whole : (Grapheme.clusters line).flatten = line := flatten_clustersFrom _ [] line
  have noCluster : ['\x08'] ∉ Grapheme.clusters line := by
    intro member
    refine none (whole ▸ ?_)
    exact List.mem_flatten_of_mem member (List.mem_singleton.mpr rfl)
  rw [erase, foldl_keep [] noCluster, List.append_nil, List.reverse_reverse, whole]

end Text

namespace CommandLine

/-- A reader returns the next line of a text and what is behind it, or nothing at the end. -/
abbrev Reader :=
  List Char → Option (String × List Char)

/-- The reader returns the lines from the text one after another, and nothing behind them. -/
inductive Reader.Returns (reader : Reader) : List Char → List String → Prop
  | nil {text : List Char} : reader text = none → Returns reader text []
  | cons {text rest : List Char} {line : String} {others : List String} :
      reader text = some (line, rest) → Returns reader rest others →
      Returns reader text (line :: others)

/-- Reads a line up to a newline or the end of the text, and carries out its backspaces. -/
def typedReader : Reader := fun text =>
  if text = [] then
    none
  else
    match text.dropWhile (· ≠ '\n') with
    | [] => some (String.ofList (Text.erase text), [])
    | _ :: rest =>
        some (String.ofList (Text.erase (Text.dropReturn (text.takeWhile (· ≠ '\n')))), rest)

section Typed

variable {line rest : List Char} {text : String}

theorem forall_ne_newline (unbroken : '\n' ∉ line) :
    ∀ character ∈ line, decide (character ≠ '\n') = true :=
  fun _ member => decide_eq_true fun same => unbroken (same ▸ member)

theorem typedReader_append_newline (unbroken : '\n' ∉ line) :
    typedReader (line ++ '\n' :: rest) =
      some (String.ofList (Text.erase (Text.dropReturn line)), rest) := by
  have within := forall_ne_newline unbroken
  have taken : (line ++ '\n' :: rest).takeWhile (· ≠ '\n') = line := by
    rw [List.takeWhile_append_of_pos within]
    simp
  have behind : (line ++ '\n' :: rest).dropWhile (· ≠ '\n') = '\n' :: rest := by
    rw [List.dropWhile_append_of_pos within]
    simp
  rw [typedReader, if_neg (by simp), behind, taken]

theorem typedReader_of_unbroken (unbroken : '\n' ∉ line) (nonempty : line ≠ []) :
    typedReader line = some (String.ofList (Text.erase line), []) := by
  have nothing : line.dropWhile (· ≠ '\n') = [] := by
    have behind : (line ++ []).dropWhile (· ≠ '\n') = [] :=
      List.dropWhile_append_of_pos (forall_ne_newline unbroken)
    rwa [List.append_nil] at behind
  rw [typedReader, if_neg nonempty, nothing]

theorem returns_typedReader (text : List Char) :
    typedReader.Returns text
      ((Text.lines text).map fun line => String.ofList (Text.erase line)) := by
  by_cases empty : text = []
  · subst empty
    exact .nil rfl
  · rcases Text.unbroken_or_exists_newline text with unbroken | ⟨line, rest, rfl, unbroken⟩
    · rw [Text.lines_of_unbroken unbroken empty]
      exact .cons (typedReader_of_unbroken unbroken empty) (.nil rfl)
    · rw [Text.lines_append_newline unbroken]
      have shorter := Text.length_lt_append_newline line rest
      exact .cons (typedReader_append_newline unbroken) (returns_typedReader rest)
termination_by text.length

/-- From a text without backspaces, the lines of the text are read. -/
theorem returns_lines (none : '\x08' ∉ text.toList) :
    typedReader.Returns text.toList (Script.lines text) := by
  have kept {line : List Char} (member : line ∈ Text.lines text.toList) : '\x08' ∉ line :=
    fun erases => none (Text.mem_of_mem_lines member erases)
  have same : Script.lines text = typedLines text := by
    rw [Script.lines, typedLines]
    exact List.map_congr_left fun line member => by rw [Text.erase_of_not_mem (kept member)]
  rw [same]
  exact returns_typedReader text.toList

end Typed

end CommandLine

end LineCalc
