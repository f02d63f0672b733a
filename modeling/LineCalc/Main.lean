import LineCalc.CommandLine.Run

/-!
# The program

Carries out a run of the command line: reads the file or the lines of the standard input as they
come, measures how long each evaluation takes, and writes what the console shows.
-/

namespace LineCalc.CommandLine

/-- Writes to the standard output at once. -/
def write (text : String) : IO Unit := do
  let output ← IO.getStdout
  output.putStr text
  output.flush

/-- Gives a console a line and shows what comes of it. -/
def submitNow (noise : Noise) (console : Console) (line : String) : IO Console := do
  let start ← IO.monoNanosNow
  let submission ← IO.lazyPure fun _ => console.submit noise line
  let finish ← IO.monoNanosNow
  write (Event.terminalAll (submission.eventsTaking (finish - start)))
  return submission.console

/-- Gives a console some lines, `count` lines being before them. -/
def submitLines (noises : Nat → Noise) (console : Console) (count : Nat) : List String → IO Unit
  | [] => return ()
  | line :: others => do
      let console ← submitNow (noises count) console line
      submitLines noises console (count + 1) others

/-- Prompts for lines and gives them to a console until the standard input ends. -/
partial def converse (noises : Nat → Noise) (console : Console) (count : Nat) : IO Unit := do
  write prompt
  let typed ← (← IO.getStdin).getLine
  match typedLines typed with
  | [] => return ()
  | line :: _ => converse noises (← submitNow (noises count) console line) (count + 1)

/-- Writes the report of a run that is over. -/
def conclude (report : Report) : IO UInt32 := do
  write report.output
  (← IO.getStderr).putStr report.errors
  return report.code.toUInt32

/-- The text of a file, if it is there and holds text. -/
def readText? (path : String) : IO (Option String) := do
  try
    return some (← IO.FS.readFile path)
  catch _ =>
    return none

/-- A seed that differs from run to run. -/
def freshSeed : IO UInt64 := do
  let bytes ← IO.getRandomBytes 8
  return bytes.foldl (fun seed byte => seed * 256 + byte.toUInt64) 0

/-- Carries out the run with given options. -/
def perform (options : Options) : IO UInt32 := do
  let noises := Noise.ofSeed (← freshSeed)
  let console := Console.fresh options.timed
  match options.file, options.contents with
  | true, some path =>
      match ← readText? path with
      | some text =>
          submitLines noises console 0 (Script.lines text)
          return 0
      | none => conclude ⟨1, "", unreadable path⟩
  | true, none => conclude ⟨1, "", missingPath⟩
  | false, some line =>
      submitLines noises console 0 [line]
      return 0
  | false, none =>
      if !options.quiet then
        write (Event.terminalAll Console.greeting)
      try
        converse noises console 0
        return 0
      catch failure =>
        conclude ⟨1, "", s!"Console failed: {failure}\n"⟩

end LineCalc.CommandLine

/-- Runs the command line. -/
def main (arguments : List String) : IO UInt32 :=
  match LineCalc.Options.read arguments with
  | .ok options => LineCalc.CommandLine.perform options
  | .error refusal => LineCalc.CommandLine.conclude (LineCalc.CommandLine.refuse refusal)
