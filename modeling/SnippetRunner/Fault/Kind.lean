import SnippetRunner.Data

/-!
# Kinds of errors

The classes of errors by name, each with its parent. An error is caught under its own name and
under every ancestor's. An error of the system has a number and a reason, and perhaps the names of
one or two files; the number decides which kind of error it is.
-/

namespace SnippetRunner.Fault

/-- Each kind of error with its parent. -/
def parents : List (String × String) :=
  [("BaseExceptionGroup", "BaseException"), ("GeneratorExit", "BaseException"),
    ("KeyboardInterrupt", "BaseException"), ("SystemExit", "BaseException"),
    ("Exception", "BaseException"), ("ArithmeticError", "Exception"),
    ("FloatingPointError", "ArithmeticError"), ("OverflowError", "ArithmeticError"),
    ("ZeroDivisionError", "ArithmeticError"), ("AssertionError", "Exception"),
    ("AttributeError", "Exception"), ("BufferError", "Exception"), ("EOFError", "Exception"),
    ("ExceptionGroup", "BaseExceptionGroup"), ("ImportError", "Exception"),
    ("ModuleNotFoundError", "ImportError"), ("LookupError", "Exception"),
    ("IndexError", "LookupError"), ("KeyError", "LookupError"), ("MemoryError", "Exception"),
    ("NameError", "Exception"), ("UnboundLocalError", "NameError"), ("OSError", "Exception"),
    ("BlockingIOError", "OSError"), ("ChildProcessError", "OSError"),
    ("ConnectionError", "OSError"), ("BrokenPipeError", "ConnectionError"),
    ("ConnectionAbortedError", "ConnectionError"),
    ("ConnectionRefusedError", "ConnectionError"), ("ConnectionResetError", "ConnectionError"),
    ("FileExistsError", "OSError"), ("FileNotFoundError", "OSError"),
    ("InterruptedError", "OSError"), ("IsADirectoryError", "OSError"),
    ("NotADirectoryError", "OSError"), ("PermissionError", "OSError"),
    ("ProcessLookupError", "OSError"), ("TimeoutError", "OSError"),
    ("ReferenceError", "Exception"), ("RuntimeError", "Exception"),
    ("NotImplementedError", "RuntimeError"), ("RecursionError", "RuntimeError"),
    ("StopAsyncIteration", "Exception"), ("StopIteration", "Exception"),
    ("SyntaxError", "Exception"), ("IndentationError", "SyntaxError"),
    ("TabError", "IndentationError"), ("SystemError", "Exception"), ("TypeError", "Exception"),
    ("ValueError", "Exception"), ("UnicodeError", "ValueError"),
    ("UnicodeDecodeError", "UnicodeError"), ("UnicodeEncodeError", "UnicodeError"),
    ("UnicodeTranslateError", "UnicodeError"), ("Warning", "Exception"),
    ("BytesWarning", "Warning"), ("DeprecationWarning", "Warning"),
    ("EncodingWarning", "Warning"), ("FutureWarning", "Warning"), ("ImportWarning", "Warning"),
    ("PendingDeprecationWarning", "Warning"), ("ResourceWarning", "Warning"),
    ("RuntimeWarning", "Warning"), ("SyntaxWarning", "Warning"), ("UnicodeWarning", "Warning"),
    ("UserWarning", "Warning"),
    ("SnipboxError", "Exception"), ("ConfigurationError", "SnipboxError"),
    ("DialectError", "SnipboxError"), ("TranspilerUnavailableError", "DialectError"),
    ("TranspileError", "DialectError"), ("ExecutionError", "SnipboxError"),
    ("ExecutionTimeoutError", "ExecutionError"), ("SnippetDeadlineExceeded", "BaseException")]

/-- The parent of a kind. -/
def parent? (kind : String) : Option String := (parents.find? (·.1 == kind)).map (·.2)

/-- A kind and its ancestors, nearest first, up to `depth` of them. -/
def lineageUpTo : Nat → String → List String
  | 0, kind => [kind]
  | depth + 1, kind =>
    match parent? kind with
    | none => [kind]
    | some up => kind :: lineageUpTo depth up

/-- A kind and all its ancestors, nearest first. A group of errors has two parents. -/
def lineage (kind : String) : List String :=
  if kind == "ExceptionGroup" then [kind, "BaseExceptionGroup", "Exception", "BaseException"]
  else lineageUpTo 8 kind

/-- Whether an error of one kind is caught under another. -/
def isKindOf (kind ancestor : String) : Bool := (lineage kind).contains ancestor

/-- Whether a name is a kind of error. -/
def isKind (name : String) : Bool := name == "BaseException" || (parent? name).isSome

/-- The runner's own kinds of errors. -/
def ownKinds : List String :=
  ["SnipboxError", "ConfigurationError", "DialectError", "TranspilerUnavailableError",
    "TranspileError", "ExecutionError", "ExecutionTimeoutError", "SnippetDeadlineExceeded"]

/-- A kind's name as a report shows it: the runner's own kinds with their full path. -/
def displayName (kind : String) : String :=
  if ownKinds.contains kind then "snipbox.core.exceptions." ++ kind else kind

/-- The other names of the kind of errors of the system. -/
def systemNames : List String := ["OSError", "IOError", "EnvironmentError"]

/-- The kinds of errors that have numbers of their own. -/
def numberedKinds : List (Int × String) :=
  [(1, "PermissionError"), (2, "FileNotFoundError"), (3, "ProcessLookupError"),
    (4, "InterruptedError"), (10, "ChildProcessError"), (11, "BlockingIOError"),
    (13, "PermissionError"), (17, "FileExistsError"), (20, "NotADirectoryError"),
    (21, "IsADirectoryError"), (32, "BrokenPipeError"), (103, "ConnectionAbortedError"),
    (104, "ConnectionResetError"), (108, "BrokenPipeError"), (110, "TimeoutError"),
    (111, "ConnectionRefusedError"), (114, "BlockingIOError"), (115, "BlockingIOError")]

/-- The kind of errors that a number belongs to. -/
def kindOfNumber? (number : Data) : Option String :=
  match number.numeric?, number with
  | some _, .float _ => none
  | some (.int n), _ => numberedKinds.lookup n
  | _, _ => none

/-- An error of the system. -/
structure Numbered where
  number : Data
  reason : Data
  file : Option Data := none
  /-- A second file, which is told only after a first one. -/
  other : Option Data := none

/-- A value, unless it is null. -/
def given? : Data → Option Data
  | .null => none
  | v => some v

/-- The kind of an error made under a name: the name of all errors of the system gives way to that
of the number. -/
def kindOf (name : String) (args : List Data) : String :=
  if ! systemNames.contains name then name
  else match args with
    | number :: _ :: rest =>
      if rest.length ≤ 3 then (kindOfNumber? number).getD "OSError" else "OSError"
    | _ => "OSError"

/-- Whether a value counts how much was written, where a kind has such a count in place of a
file. -/
def isCount (kind : String) (v : Data) : Bool := kind == "BlockingIOError" && v.numeric?.isSome

/-- The parts of an error of the system that its arguments give; there must be two to five. -/
def Numbered.ofArguments? (kind : String) : List Data → Option Numbered
  | number :: reason :: rest =>
    if 3 < rest.length then none
    else
      let file := (rest.head?.bind given?).filter fun v => ! isCount kind v
      some { number, reason, file, other := (rest[2]?).bind given? }
  | _ => none

/-- The text of an error of the system. -/
def Numbered.text (e : Numbered) : String :=
  let head := s!"[Errno {e.number.shown}] {e.reason.shown}"
  match e.file, e.other with
  | none, _ => head
  | some file, none => s!"{head}: {file.quoted}"
  | some file, some other => s!"{head}: {file.quoted} -> {other.quoted}"

/-- Why a count of what was written is none, if so. -/
def countProblem? (kind : String) (args : List Data) : Option Problem :=
  match args with
  | _ :: _ :: v :: rest =>
    if 2 < rest.length || ! isCount kind v then none
    else match v with
      | .float _ => some ⟨"TypeError", "'float' object cannot be interpreted as an integer"⟩
      | .int n =>
        if n.natAbs < Number.twoTo 63 then none
        else some ⟨"ValueError", "cannot fit 'int' into an index-sized integer"⟩
      | _ => none
  | _ => none

end SnippetRunner.Fault
