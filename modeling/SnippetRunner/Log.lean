import SnippetRunner.Data
import SnippetRunner.Text.LetterCase

/-!
# The log

What the runner notes about its own work, as records with a level, a logger and a message. All
loggers are below one. Setting it up says from which level on records are shown, and attaches the
one handler that shows them.
-/

namespace SnippetRunner

/-- How grave a record is. -/
inductive Level where
  | debug
  | info
  | warning
  | error
  deriving Repr, DecidableEq

/-- The name of a level. -/
def Level.name : Level → String
  | .debug => "DEBUG"
  | .info => "INFO"
  | .warning => "WARNING"
  | .error => "ERROR"

/-- One record of the log. -/
structure Record where
  level : Level
  logger : String
  message : String
  deriving Repr, DecidableEq

/-- A record as a line. -/
def Record.line (r : Record) : String := s!"{r.level.name} {r.logger}: {r.message}"

end SnippetRunner

namespace SnippetRunner.Log

/-- The logger above all others. -/
def rootName : String := "snipbox"

/-- The full name of a logger: names that are not below the root are put there. -/
def fullName (name : String) : String :=
  if name == rootName || name.startsWith (rootName ++ ".") then name
  else rootName ++ "." ++ name

/-- The full name of a logger whose name is a plain value. -/
def fullNameOf (name : Data) : Except Problem String :=
  match name with
  | .text s => .ok (fullName s)
  | .bytes _ => .error ⟨"TypeError",
    "startswith first arg must be bytes or a tuple of bytes, not str"⟩
  | v => .error ⟨"AttributeError", s!"'{v.typeName}' object has no attribute 'startswith'"⟩

/-- The numbers of the levels. -/
def levelNumbers : List (String × Int) :=
  [("CRITICAL", 50), ("FATAL", 50), ("ERROR", 40), ("WARN", 30), ("WARNING", 30), ("INFO", 20),
    ("DEBUG", 10), ("NOTSET", 0)]

/-- The level where nothing else is said. -/
def usualLevel : Int := 20

/-- The number of a level that is given by name, in any case; an unknown name is the usual one. -/
def levelNumber (name : String) : Int := (levelNumbers.lookup (Text.upper name)).getD usualLevel

/-- The root logger. -/
structure Root where
  level : Data := .int 0
  handlers : Nat := 0
  /-- Whether records go on to other logs. -/
  propagates : Bool := true
  deriving Inhabited

/-- The level that a value gives: a number, or a name. -/
def levelOf (v : Data) : Except Problem Data :=
  match v with
  | .text name => .ok (.int (levelNumber name))
  | .int _ | .bool _ => .ok v
  | _ => do
    let _ ← v.print
    .error ⟨"TypeError", s!"Level not an integer or a valid string: {v.quoted}"⟩

/-- Sets the log up. The handler is attached the first time only. -/
def Root.setUp (r : Root) (level : Data) : Except Problem Root := do
  let level ← levelOf level
  return { level, handlers := max 1 r.handlers, propagates := false }

end SnippetRunner.Log
