import LineCalc.CommandLine.Options
import LineCalc.Console
import LineCalc.Text.Erasure

/-!
# Runs of the command line

A run gives one line, the lines of a file, or the lines of the standard input to a console and
writes what the console shows.  Lines that fail do not make the run fail.  Lines from the standard
input are taken as typed: a prompt is written before each of them and before the end, and backspaces
are carried out.
-/

namespace LineCalc.CommandLine

/-- What a run leaves behind. -/
structure Report where
  /-- The exit status. -/
  code : Nat
  /-- What is written to the standard output. -/
  output : String
  /-- What is written to the standard error. -/
  errors : String
  deriving DecidableEq

/-- What a run depends on besides its arguments. -/
structure Surroundings where
  /-- The text of the file of a given name, if it is there and holds text. -/
  file? : String → Option String
  /-- The text of the standard input. -/
  input : String
  /-- The random numbers of each line. -/
  noises : Nat → Noise
  /-- The time that each line takes, in nanoseconds. -/
  durations : Nat → Nat

/-- What is written before each line is read from the standard input. -/
def prompt : String :=
  "> "

/-- How the command line is used. -/
def usage : String :=
  "Usage: classhub [OPTIONS] [CONTENTS]"

/-- What `--help` writes. -/
def helpText : String :=
  usage ++ "\n\n" ++
    "CONTENTS is a line to run, or a path with --file.\n" ++
    "Without CONTENTS, lines are read interactively.\n\n" ++
    "  -f, --file                 Read lines from a file\n" ++
    "  -t, --show-execution-time  Print how long each line took to evaluate\n" ++
    "  -q, --quiet                Do not print the start-up hint\n" ++
    "  -h, --help                 Print help\n" ++
    "  -V, --version              Print version\n"

/-- What `--version` writes. -/
def versionText : String :=
  "classhub 1.1.0\n"

def missingPath : String :=
  "No input file given. Usage: classhub --file <path>\n"

def unreadable (path : String) : String :=
  s!"Failed to read the input file '{path}'. Perhaps this file does not exist?\n"

/-- The run that arguments without proper options lead to. -/
def refuse : Refusal → Report
  | .help => ⟨0, helpText, ""⟩
  | .version => ⟨0, versionText, ""⟩
  | .misuse argument => ⟨2, "", s!"error: unexpected argument '{argument}'\n\n{usage}\n"⟩

/-- What a console shows for each of some lines, `count` lines being before them. -/
def submitFrom (surroundings : Surroundings) (console : Console) (count : Nat) :
    List String → List (List Event)
  | [] => []
  | line :: others =>
      let submission := console.submit (surroundings.noises count) line
      submission.eventsTaking (surroundings.durations count) ::
        submitFrom surroundings submission.console (count + 1) others

/-- What a fresh console shows for each of some lines. -/
def submitAll (surroundings : Surroundings) (options : Options) (lines : List String) :
    List (List Event) :=
  submitFrom surroundings (Console.fresh options.timed) 0 lines

/-- The run of lines that are at hand. -/
def runLines (surroundings : Surroundings) (options : Options) (lines : List String) : Report :=
  ⟨0, String.join ((submitAll surroundings options lines).map Event.terminalAll), ""⟩

/-- The lines of a typed text, after its backspaces. -/
def typedLines (text : String) : List String :=
  (Text.lines text.toList).map fun line => String.ofList (Text.erase line)

/-- The run of lines that are prompted for. -/
def runPrompted (surroundings : Surroundings) (options : Options) : Report :=
  let greeting := if options.quiet then "" else Event.terminalAll Console.greeting
  let answers := submitAll surroundings options (typedLines surroundings.input)
  let prompted := answers.map fun events => prompt ++ Event.terminalAll events
  ⟨0, greeting ++ String.join prompted ++ prompt, ""⟩

/-- The run with given options. -/
def runWith (surroundings : Surroundings) (options : Options) : Report :=
  match options.file, options.contents with
  | true, some path =>
      match surroundings.file? path with
      | some text => runLines surroundings options (Script.lines text)
      | none => ⟨1, "", unreadable path⟩
  | true, none => ⟨1, "", missingPath⟩
  | false, some line => runLines surroundings options [line]
  | false, none => runPrompted surroundings options

/-- The run with given arguments. -/
def run (surroundings : Surroundings) (arguments : List String) : Report :=
  match Options.read arguments with
  | .ok options => runWith surroundings options
  | .error refusal => refuse refusal

end LineCalc.CommandLine
