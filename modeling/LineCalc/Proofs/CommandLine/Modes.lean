import LineCalc.Proofs.CommandLine.Reader
import LineCalc.Proofs.Console.Run

/-!
# Modes of the command line

The lines of a file and the lines that are prompted for meet the same console, one after another.
Whatever the lines are, the two modes write the same but for the prompts and the greeting.
-/

namespace LineCalc

namespace CommandLine

open Console

/-- A conversation prompts for a line and gives it to the console until the reader has nothing more.
Lines are counted so that each takes its random numbers and its time. -/
inductive Converses (reader : Reader) (surroundings : Surroundings) :
    Console → Nat → List Char → String → Prop
  | ends {console : Console} {count : Nat} {text : List Char} :
      reader text = none → Converses reader surroundings console count text prompt
  | line {console : Console} {count : Nat} {text rest : List Char} {line output : String}
      {submission : Submission} :
      reader text = some (line, rest) →
      console.submit (surroundings.noises count) line = submission →
      Converses reader surroundings submission.console (count + 1) rest output →
      Converses reader surroundings console count text
        (prompt ++ Event.terminalAll (submission.eventsTaking (surroundings.durations count)) ++
          output)

/-- What the arguments make the command line do if lines are read by the reader. -/
inductive Runs (reader : Reader) (surroundings : Surroundings) (arguments : List String) :
    Report → Prop
  | prompted {timed quiet : Bool} {output : String} :
      Options.read arguments = .ok ⟨false, timed, quiet, none⟩ →
      Converses reader surroundings (Console.fresh timed) 0 surroundings.input.toList output →
      Runs reader surroundings arguments
        ⟨0, (if quiet then "" else Event.terminalAll Console.greeting) ++ output, ""⟩
  | unprompted {options : Options} :
      Options.read arguments = .ok options → options.file = true ∨ options.contents ≠ none →
      Runs reader surroundings arguments (runWith surroundings options)
  | refused {refusal : Refusal} :
      Options.read arguments = .error refusal → Runs reader surroundings arguments (refuse refusal)

variable {reader : Reader} {surroundings : Surroundings} {console : Console} {count : Nat}
variable {text : List Char} {lines : List String} {arguments : List String}

/-- What is shown for lines is what a console shows that is asked to evaluate them. -/
theorem submitFrom_eq_run (surroundings : Surroundings) (console : Console) (count : Nat)
    (lines : List String) :
    submitFrom surroundings console count lines =
      (console.run (submissions surroundings.noises surroundings.durations count lines)).map
        Response.events := by
  induction lines generalizing console count with
  | nil => rfl
  | cons line others ih =>
      rw [submitFrom, submissions, Console.run, List.map_cons, ih]
      rfl

/-- A conversation writes a prompt before what is shown for each line, and one more. -/
theorem converses_iff {output : String} (returns : reader.Returns text lines) :
    Converses reader surroundings console count text output ↔
      output = String.join ((submitFrom surroundings console count lines).map fun events =>
        prompt ++ Event.terminalAll events) ++ prompt := by
  induction returns generalizing console count output with
  | nil ended =>
      constructor
      · rintro (_ | ⟨read, _, _⟩)
        · rfl
        · exact absurd (ended.symm.trans read) nofun
      · rintro rfl
        exact .ends ended
  | @cons text rest line others read _ ih =>
      rw [submitFrom, List.map_cons, String.join_cons, String.append_assoc]
      constructor
      · rintro (ended | ⟨readAgain, submitted, later⟩)
        · exact absurd (read.symm.trans ended) nofun
        · obtain ⟨rfl, rfl⟩ := Prod.mk.inj (Option.some.inj (read.symm.trans readAgain))
          subst submitted
          rw [ih.mp later]
      · rintro rfl
        exact .line read rfl (ih.mpr rfl)

section Runs

variable {report : Report}

theorem runs_iff_of_refused {refusal : Refusal}
    (read : Options.read arguments = .error refusal) :
    Runs reader surroundings arguments report ↔ report = refuse refusal := by
  constructor
  · rintro (⟨other, _⟩ | ⟨other, _⟩ | other)
    · exact absurd (read.symm.trans other) nofun
    · exact absurd (read.symm.trans other) nofun
    · obtain rfl := Except.error.inj (read.symm.trans other)
      rfl
  · rintro rfl
    exact .refused read

theorem runs_iff_of_unprompted {options : Options} (read : Options.read arguments = .ok options)
    (unprompted : options.file = true ∨ options.contents ≠ none) :
    Runs reader surroundings arguments report ↔ report = runWith surroundings options := by
  constructor
  · rintro (⟨other, _⟩ | ⟨other, _⟩ | other)
    · obtain rfl := Except.ok.inj (read.symm.trans other)
      simp at unprompted
    · obtain rfl := Except.ok.inj (read.symm.trans other)
      rfl
    · exact absurd (read.symm.trans other) nofun
  · rintro rfl
    exact .unprompted read unprompted

theorem runs_iff_of_prompted {timed quiet : Bool}
    (read : Options.read arguments = .ok ⟨false, timed, quiet, none⟩)
    (returns : reader.Returns surroundings.input.toList lines) :
    Runs reader surroundings arguments report ↔ report =
      ⟨0, (if quiet then "" else Event.terminalAll Console.greeting) ++
        (String.join ((submitFrom surroundings (Console.fresh timed) 0 lines).map fun events =>
          prompt ++ Event.terminalAll events) ++ prompt), ""⟩ := by
  constructor
  · rintro (⟨other, converses⟩ | ⟨other, unprompted⟩ | other)
    · obtain ⟨_, rfl, rfl, _⟩ := Options.mk.inj (Except.ok.inj (read.symm.trans other))
      rw [(converses_iff returns).mp converses]
    · obtain rfl := Except.ok.inj (read.symm.trans other)
      simp at unprompted
    · exact absurd (read.symm.trans other) nofun
  · rintro rfl
    exact .prompted read ((converses_iff returns).mpr rfl)

/-- The program reads typed lines. -/
theorem run_eq_iff_runs :
    run surroundings arguments = report ↔ Runs typedReader surroundings arguments report := by
  rw [eq_comm, run]
  cases read : Options.read arguments with
  | error refusal => exact (runs_iff_of_refused read).symm
  | ok options =>
      by_cases unprompted : options.file = true ∨ options.contents ≠ none
      · exact (runs_iff_of_unprompted read unprompted).symm
      · obtain ⟨file, timed, quiet, contents⟩ := options
        obtain ⟨rfl, rfl⟩ : file = false ∧ contents = none := by simpa using unprompted
        rw [runs_iff_of_prompted read (returns_typedReader _), ← String.append_assoc]
        rfl

end Runs

/-! ## Times -/

/-- The responses are the same but for the time that is told at the end. -/
def SameButTime (response other : Response) : Prop :=
  response.outcome = other.outcome ∧ response.console = other.console ∧
    ∃ shown told nanoseconds otherNanoseconds,
      response.events = shown ++ timing told nanoseconds ∧
        other.events = shown ++ timing told otherNanoseconds

theorem sameButTime_respond (console : Console) (input : Input) (nanoseconds other : Nat) :
    SameButTime (console.respond (.submit input nanoseconds))
      (console.respond (.submit input other)) := by
  let submission := console.submit input.noise input.line
  exact ⟨rfl, rfl, submission.events, submission.timed, nanoseconds, other,
    eventsTaking_eq submission nanoseconds, eventsTaking_eq submission other⟩

/-- How long the evaluations take makes no other difference. -/
theorem sameButTime_run (noises : Nat → Noise) (durations others : Nat → Nat) (console : Console)
    (count : Nat) (lines : List String) :
    let responses := console.run (submissions noises durations count lines)
    let otherResponses := console.run (submissions noises others count lines)
    responses.length = otherResponses.length ∧
      ∀ pair ∈ responses.zip otherResponses, SameButTime pair.1 pair.2 := by
  induction lines generalizing console count with
  | nil => simp [submissions, Console.run]
  | cons line behind ih =>
      have first := sameButTime_respond console ⟨line, noises count⟩ (durations count)
        (others count)
      simp only [submissions, Console.run]
      generalize console.respond (.submit ⟨line, noises count⟩ (durations count)) = response
        at first ⊢
      generalize console.respond (.submit ⟨line, noises count⟩ (others count)) = other at first ⊢
      obtain ⟨length, later⟩ := ih response.console (count + 1)
      rw [first.2.1] at length later ⊢
      exact ⟨congrArg (· + 1) length, List.forall_mem_cons.mpr ⟨first, later⟩⟩

/-! ## Modes -/

theorem terminalAll_greeting :
    Event.terminalAll Console.greeting =
      "Use 'help()' to see available functions. Use 'help(function)' for specific help.\n" := by
  simp [Event.terminalAll, Console.greeting, Event.terminal]

/-- Let a reader return the lines of a text one after another.  Then the text as a file and the text
as standard input make a fresh console show the same for each line, whatever becomes of it; for a
file this is all that is written; otherwise a prompt comes before what is shown for each line and at
the end, and unless the run is quiet the greeting is the first line.  The run succeeds in both
modes.  The program's own reader is like that for a text without backspaces. -/
theorem modes_agree (text : String) (returns : reader.Returns text.toList (Script.lines text))
    (surroundings : Surroundings) (timed : Bool) :
    let responses := (Console.fresh timed).run
      (submissions surroundings.noises surroundings.durations 0 (Script.lines text))
    (∀ arguments path quiet report, Options.read arguments = .ok ⟨true, timed, quiet, some path⟩ →
        surroundings.file? path = some text →
        (Runs reader surroundings arguments report ↔
          report = ⟨0, Event.terminalAll (responses.flatMap Response.events), ""⟩)) ∧
      (∀ arguments quiet report, Options.read arguments = .ok ⟨false, timed, quiet, none⟩ →
        surroundings.input = text →
        (Runs reader surroundings arguments report ↔
          report = ⟨0, (if quiet then "" else
              "Use 'help()' to see available functions. Use 'help(function)' for specific help.\n") ++
            (String.join (responses.map fun response =>
              prompt ++ Event.terminalAll response.events) ++ prompt), ""⟩)) ∧
      (∀ durations,
        let others := (Console.fresh timed).run
          (submissions surroundings.noises durations 0 (Script.lines text))
        responses.length = others.length ∧
          ∀ pair ∈ responses.zip others, SameButTime pair.1 pair.2) ∧
      (∀ arguments report, run surroundings arguments = report ↔
        Runs typedReader surroundings arguments report) ∧
      ('\x08' ∉ text.toList → typedReader.Returns text.toList (Script.lines text)) := by
  intro responses
  have shown : submitFrom surroundings (Console.fresh timed) 0 (Script.lines text) =
      responses.map Response.events := submitFrom_eq_run _ _ _ _
  refine ⟨fun arguments path quiet report read found => ?_,
    fun arguments quiet report read input => ?_, fun durations => sameButTime_run _ _ _ _ _ _,
    fun _ _ => run_eq_iff_runs, returns_lines⟩
  · rw [runs_iff_of_unprompted read (.inl rfl), runWith]
    simp only [found, runLines, submitAll, shown]
    rw [← Event.terminalAll_flatten, List.flatMap_def]
  · have returned : reader.Returns surroundings.input.toList (Script.lines text) :=
      input ▸ returns
    rw [runs_iff_of_prompted read returned, shown, List.map_map, terminalAll_greeting]
    rfl

/-- Here a line is blank, one fails, one is a command, one erases, and the last one is not ended. -/
theorem modes_agree_mixed :
    let text := "x = 2\r\n\n:time on\n1/\nclear()"
    let surroundings : Surroundings := ⟨fun _ => some text, text, fun _ _ => .nan, fun _ => 0⟩
    let prompted := "> > x = 2\n= 2\n> > Flag 'flag.showExecutionTime' enabled\n> > 1/\n" ++
      "Error: Expected number at position 2\n(Evaluated in 0.00ms)\n" ++
      "> > clear()\n\x1b[2J\x1b[H(Evaluated in 0.00ms)\n> "
    run surroundings ["-f", "lines"] =
        ⟨0, "> x = 2\n= 2\nFlag 'flag.showExecutionTime' enabled\n> 1/\n" ++
          "Error: Expected number at position 2\n(Evaluated in 0.00ms)\n" ++
          "> clear()\n\x1b[2J\x1b[H(Evaluated in 0.00ms)\n", ""⟩ ∧
      run surroundings ["-q"] = ⟨0, prompted, ""⟩ ∧
      run surroundings [] =
        ⟨0, "Use 'help()' to see available functions. Use 'help(function)' for specific help.\n" ++
          prompted, ""⟩ := by
  intro text surroundings prompted
  have returns : typedReader.Returns text.toList (Script.lines text) := returns_lines (by decide)
  obtain ⟨file, asked, _, own, _⟩ := modes_agree text returns surroundings false
  refine ⟨?_, ?_, ?_⟩
  · have same := file ["-f", "lines"] "lines" false
      (run surroundings ["-f", "lines"]) (by rfl) rfl
    exact (same.mp ((own _ _).mp rfl)).trans (by decide +kernel)
  · have same := asked ["-q"] true (run surroundings ["-q"]) (by rfl) rfl
    exact (same.mp ((own _ _).mp rfl)).trans (by decide +kernel)
  · have same := asked [] false (run surroundings []) (by rfl) rfl
    exact (same.mp ((own _ _).mp rfl)).trans (by decide +kernel)

end CommandLine

end LineCalc
