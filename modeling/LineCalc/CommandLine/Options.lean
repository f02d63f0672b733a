/-!
# Command line options

Three flags may be set, each once, by a short or a long name; short names combine behind one hyphen.
One more argument is the contents.  Behind `--` every argument is contents, whatever it looks like.
Arguments are read in order, and the first one that asks for help or is wrong decides.
-/

namespace LineCalc

/-- What the command line asks for. -/
structure Options where
  /-- The contents are the name of a file with lines to run. -/
  file : Bool
  /-- Show how long each evaluation took. -/
  timed : Bool
  /-- Do not greet. -/
  quiet : Bool
  /-- A line to run, or the name of a file. -/
  contents : Option String
  deriving DecidableEq

/-- Why the arguments are not options to run with. -/
inductive Refusal where
  | help
  | version
  /-- The argument is unknown, repeated, or one too many. -/
  | misuse (argument : String)
  deriving DecidableEq

namespace Options

/-- No option at all. -/
def none : Options :=
  ⟨false, false, false, Option.none⟩

/-- A flag that may be set. -/
inductive Flag where
  | file
  | timed
  | quiet
  deriving DecidableEq

/-- Is the flag set? -/
def isSet (options : Options) : Flag → Bool
  | .file => options.file
  | .timed => options.timed
  | .quiet => options.quiet

/-- Sets a flag that is not set yet. -/
def set (options : Options) (flag : Flag) (argument : String) : Except Refusal Options :=
  if options.isSet flag then
    .error (.misuse argument)
  else
    match flag with
    | .file => .ok { options with file := true }
    | .timed => .ok { options with timed := true }
    | .quiet => .ok { options with quiet := true }

/-- Takes an argument that is not an option; there may be only one. -/
def take (options : Options) (argument : String) : Except Refusal Options :=
  match options.contents with
  | some _ => .error (.misuse argument)
  | Option.none => .ok { options with contents := some argument }

/-- Reads a long option. -/
def readLong (options : Options) (argument : String) : Except Refusal Options :=
  match argument with
  | "--file" => options.set .file argument
  | "--show-execution-time" => options.set .timed argument
  | "--quiet" => options.set .quiet argument
  | "--help" => .error .help
  | "--version" => .error .version
  | _ => .error (.misuse argument)

/-- Reads the short options of one argument. -/
def readShort (argument : String) (options : Options) : List Char → Except Refusal Options
  | [] => .ok options
  | letter :: others =>
      match letter with
      | 'f' => do readShort argument (← options.set .file argument) others
      | 't' => do readShort argument (← options.set .timed argument) others
      | 'q' => do readShort argument (← options.set .quiet argument) others
      | 'h' => .error .help
      | 'V' => .error .version
      | _ => .error (.misuse argument)

/-- Adds the arguments to the options. -/
def readFrom (options : Options) : List String → Except Refusal Options
  | [] => .ok options
  | argument :: others =>
      match argument.toList with
      | ['-', '-'] => others.foldlM take options
      | '-' :: '-' :: _ => do readFrom (← options.readLong argument) others
      | '-' :: letter :: letters => do
          readFrom (← readShort argument options (letter :: letters)) others
      | _ => do readFrom (← options.take argument) others

/-- The options that the arguments give. -/
def read (arguments : List String) : Except Refusal Options :=
  readFrom none arguments

end Options

end LineCalc
