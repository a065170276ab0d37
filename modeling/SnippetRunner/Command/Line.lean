import SnippetRunner.Command.Arguments
import SnippetRunner.Number.Reading

/-!
# The command line

What can be asked for on the command line: to run a snippet, to serve others, or to see which
dialects there are.
-/

namespace SnippetRunner.Command

/-- A request to run a snippet. -/
structure RunArguments where
  /-- Where the snippet is; a hyphen stands for the standard input. -/
  path : String := ""
  dialect : Option String := none
  deadline : Option Float := none
  /-- Whether the result is printed without a frame. -/
  plain : Bool := false

/-- A request to serve others. -/
structure ServeArguments where
  host : Option String := none
  port : Option Int := none
  deriving Repr, DecidableEq

/-- What is asked for. -/
inductive Task where
  | run (arguments : RunArguments)
  | serve (arguments : ServeArguments)
  | doctor

/-- A command line. -/
structure Line where
  /-- The folder of the project. -/
  root : Option String := none
  logLevel : Option String := none
  task : Task := .doctor

/-- The option that asks for help. -/
def helpSwitch {ω : Type} : Switch ω := ⟨["-h", "--help"], .help⟩

/-- An option whose value is a text. -/
def textSwitch {ω : Type} (names : List String) (set : String → ω → ω) : Switch ω :=
  ⟨names, .value fun s => .ok (set s)⟩

/-- An option whose value is a float. -/
def floatSwitch {ω : Type} (names : List String) (set : Float → ω → ω) : Switch ω :=
  ⟨names, .value fun s => match Number.readFloat? s with
    | some x => .ok (set x)
    | none => .error s!"invalid float value: {Text.quoted s}"⟩

/-- An option whose value is an integer. -/
def integerSwitch {ω : Type} (names : List String) (set : Int → ω → ω) : Switch ω :=
  ⟨names, .value fun s => match Number.readInt s with
    | .ok n => .ok (set n)
    | .error _ => .error s!"invalid int value: {Text.quoted s}"⟩

/-- The name of the program. -/
def programName : String := "snipbox"

/-- How a request for a run is read. -/
def runParser : Parser RunArguments where
  program := programName ++ " run"
  switches := [helpSwitch,
    textSwitch ["--dialect", "-d"] fun s a => { a with dialect := some s },
    floatSwitch ["--deadline"] fun x a => { a with deadline := some x },
    ⟨["--plain"], .flag fun a => { a with plain := true }⟩]
  positional := .word "path" fun s a => { a with path := s }

/-- How a request to serve is read. -/
def serveParser : Parser ServeArguments where
  program := programName ++ " serve"
  switches := [helpSwitch,
    textSwitch ["--host"] fun s a => { a with host := some s },
    integerSwitch ["--port"] fun n a => { a with port := some n }]
  positional := .nothing

/-- How a request for the dialects is read. -/
def doctorParser : Parser Unit where
  program := programName ++ " doctor"
  switches := [helpSwitch]
  positional := .nothing

/-- A command line that is being read, with the words that the task leaves over. -/
structure Draft where
  line : Line := {}
  extras : List String := []

/-- Reads a task by its name and its own arguments. -/
def readTask (words : List String) (d : Draft) : Except Stop Draft := do
  let finish (task : Task) (extras : List String) : Draft :=
    { line := { d.line with task }, extras }
  match words with
  | "run" :: args =>
    let (a, extras) ← runParser.read {} args
    return finish (.run a) extras
  | "serve" :: args =>
    let (a, extras) ← serveParser.read {} args
    return finish (.serve a) extras
  | "doctor" :: args =>
    let (_, extras) ← doctorParser.read () args
    return finish .doctor extras
  | _ =>
    let choice := Text.quoted (words.headD "")
    throw (.usage programName
      s!"argument command: invalid choice: {choice} (choose from 'run', 'serve', 'doctor')")

/-- How the whole command line is read. -/
def lineParser : Parser Draft where
  program := programName
  switches := [helpSwitch,
    textSwitch ["--project-root"] fun s d => { d with line := { d.line with root := some s } },
    textSwitch ["--log-level"] fun s d => { d with line := { d.line with logLevel := some s } }]
  positional := .rest "command" readTask

/-- Reads a command line; no word may be left over. -/
def Line.read (args : List String) : Except Stop Line := do
  let (d, extras) ← lineParser.read {} args
  match extras ++ d.extras with
  | [] => return d.line
  | extras =>
    throw (.usage programName ("unrecognized arguments: " ++ String.intercalate " " extras))

/-- The last line of what is said about a command line that is not understood. -/
def usageLine (program message : String) : String := s!"{program}: error: {message}"

end SnippetRunner.Command
