import SnippetRunner.Dialect.Handle
import SnippetRunner.Run.Supervisor

/-!
# The Coconut transpiler

The adapter of the compiler package: how it is set up, which of its helpers snippets get, and how
its complaints are reported. The compiler itself handles a source line by line; the word before
the first space says what becomes of a line.
-/

namespace SnippetRunner.Coconut

open SnippetRunner.Fault

/-- The compiler package as it is installed. -/
structure Package where
  /-- The names of its helpers. -/
  helpers : List String := []
  /-- The error with which it refuses to be set up. -/
  setupError : Option Raised := none
  /-- Parts of it that are missing. -/
  missing : List String := []

/-- The name of the package. -/
def packageName : String := "coconut"

/-- How the compiler is set up: for the interpreter at hand, and without comments. -/
def setup : List (String × Data) :=
  [("target", .text "sys"), ("line_numbers", .bool false), ("keep_lines", .bool false)]

/-- The compiler's mode: no header before the result. -/
def mode : String := "block"

/-! ## The compiler -/

/-- What the compiler makes of a line. -/
inductive Line where
  | kept (text : String)
  | warned (text : String)
  /-- A complaint, with or without the number of the line. -/
  | refused (text : String) (numbered : Bool)
  | crashed (text : String)
  deriving Repr, DecidableEq

/-- Reads a line. -/
def Line.read (line : String) : Line :=
  let word := String.ofList (line.toList.takeWhile (· != ' '))
  let rest := String.ofList ((line.toList.dropWhile (· != ' ')).drop 1)
  match word with
  | "let" => .kept rest
  | "!warn" => .warned rest
  | "!fail" => .refused rest true
  | "!failnoln" => .refused rest false
  | "!crash" => .crashed rest
  | _ => .kept line

/-- What is noted of a compiler's warning. -/
def warningRecord (text : String) : Record :=
  ⟨.info, Handle.loggerName, s!"coconut compiler warning: {text}"⟩

/-- The error for a refused source. -/
def refusal (text : String) (line : Data) : Raised :=
  { kind := "TranspileError", args := [.text packageName, .text text, line] }

/-- Compiles lines from a number on: the lines that are kept, or the first complaint. -/
def compileLines (number : Nat) : List String → Except Raised (List String) × List Record
  | [] => (.ok [], [])
  | line :: rest =>
    match Line.read line with
    | .kept text =>
      let (result, log) := compileLines (number + 1) rest
      (result.map (text :: ·), log)
    | .warned text =>
      let (result, log) := compileLines (number + 1) rest
      (result, warningRecord text :: log)
    | .refused text numbered =>
      (.error (refusal text (if numbered then .int number else .null)), [])
    | .crashed text => (.error { kind := "KeyError", args := [.text text] }, [])

/-- The lines of a source, without the newlines between them. -/
def linesOf (source : String) : List String :=
  (source.toList.splitOn '\n').map String.ofList

/-- Compiles a source. -/
def compile (source : String) : Prepared :=
  let (result, log) := compileLines 1 (linesOf source)
  { result := result.map (String.intercalate "\n"), log }

/-! ## The adapter -/

/-- The helpers that snippets get: those with a name that is not hidden. -/
def visibleHelpers {α : Type} (helpers : List (String × α)) : List (String × α) :=
  helpers.filter fun entry => ! entry.1.startsWith "__"

/-- An error of an import. -/
def importError (message : String) : Raised := { kind := "ImportError", args := [.text message] }

/-- An error for a missing module. -/
def missingModule (name : String) : Raised :=
  { kind := "ModuleNotFoundError", args := [.text s!"No module named '{name}'"] }

/-- Sets the compiler up, if the package is installed and complete. -/
def Package.check : Option Package → Except Raised Package
  | none => .error (missingModule packageName)
  | some p =>
    let lacks (part : String) : Bool := p.missing.contains part
    if lacks "__coconut__" then .error (missingModule "coconut.__coconut__")
    else if lacks "api" then
      .error (importError "cannot import name 'api' from 'coconut' (unknown location)")
    else if lacks "exceptions" then .error (missingModule "coconut.exceptions")
    else if lacks "terminal" then .error (missingModule "coconut.terminal")
    else match p.setupError with
      | some error => .error error
      | none => .ok p

end SnippetRunner.Coconut
