import SnippetRunner.Evaluation.Value
import SnippetRunner.Fault.Kind

/-!
# The names of a new context

A snippet starts with the runner's own bindings, the known names, and those helpers of its dialect
that do not reach outside. A helper is left out if it starts threads or processes, or if the host
itself has something of that name, with or without `py_` before it, that snippets do not know.
-/

namespace SnippetRunner.Sandbox

open SnippetRunner.Evaluation

/-- The bindings for output. -/
def outputBindings : Table := [("print", .own .print), ("log", .own .log)]

/-- The bindings for timers. -/
def timerBindings : Table :=
  [("call_later", .own .callLater), ("cancel_call", .own .cancelCall),
    ("call_every", .own .callEvery), ("cancel_every", .own .cancelEvery)]

/-- The runner's own bindings. -/
def ownBindings : Table := outputBindings ++ timerBindings

/-- Helpers that start threads or processes. -/
def deniedNames : List String := ["process_map", "parallel_map", "concurrent_map"]

/-! ## Known names -/

/-- The names of known values. -/
def knownValues : Table :=
  [("True", .bool true), ("False", .bool false), ("None", .none), ("Ellipsis", .ellipsis),
    ("NotImplemented", .notImplemented)]

/-- The names of known types. -/
def knownTypes : List String :=
  ["int", "float", "complex", "str", "bool", "list", "dict", "tuple", "set", "frozenset",
    "bytes", "bytearray", "object", "property", "staticmethod", "classmethod", "super", "range",
    "enumerate", "zip", "map", "filter", "reversed", "type", "slice"]

/-- The names of known functions. -/
def knownFunctions : List String :=
  ["sorted", "iter", "next", "len", "min", "max", "sum", "abs", "round", "pow", "divmod", "hash",
    "chr", "ord", "repr", "ascii", "format", "bin", "hex", "oct", "isinstance", "issubclass",
    "hasattr", "getattr", "setattr", "delattr", "callable", "id", "all", "any",
    "__build_class__"]

/-- The names of known kinds of errors. -/
def knownErrors : List String :=
  ["BaseException", "Exception", "ArithmeticError", "AssertionError", "AttributeError",
    "ImportError", "IndexError", "KeyError", "LookupError", "ModuleNotFoundError", "NameError",
    "NotImplementedError", "OverflowError", "RecursionError", "RuntimeError", "StopIteration",
    "TypeError", "ValueError", "ZeroDivisionError"]

/-- What every snippet knows by name. -/
def knownNames : Table :=
  knownValues ++ (knownTypes ++ knownErrors).map (fun name => (name, .type name))
    ++ knownFunctions.map fun name => (name, .builtin name)

/-- What the host knows by name and snippets do not. -/
def hostOnlyNames : List String :=
  ["BaseExceptionGroup", "BlockingIOError", "BrokenPipeError", "BufferError", "BytesWarning",
    "ChildProcessError", "ConnectionAbortedError", "ConnectionError", "ConnectionRefusedError",
    "ConnectionResetError", "DeprecationWarning", "EOFError", "EncodingWarning",
    "EnvironmentError", "ExceptionGroup", "FileExistsError", "FileNotFoundError",
    "FloatingPointError", "FutureWarning", "GeneratorExit", "IOError", "ImportWarning",
    "IndentationError", "InterruptedError", "IsADirectoryError", "KeyboardInterrupt",
    "MemoryError", "NotADirectoryError", "OSError", "PendingDeprecationWarning",
    "PermissionError", "ProcessLookupError", "ReferenceError", "ResourceWarning",
    "RuntimeWarning", "StopAsyncIteration", "SyntaxError", "SyntaxWarning", "SystemError",
    "SystemExit", "TabError", "TimeoutError", "UnboundLocalError", "UnicodeDecodeError",
    "UnicodeEncodeError", "UnicodeError", "UnicodeTranslateError", "UnicodeWarning",
    "UserWarning", "Warning", "__annotations__", "__class__", "__debug__", "__delattr__",
    "__dict__", "__dir__", "__doc__", "__eq__", "__format__", "__ge__", "__getattribute__",
    "__getstate__", "__gt__", "__hash__", "__import__", "__init__", "__init_subclass__",
    "__le__", "__loader__", "__lt__", "__name__", "__ne__", "__new__", "__package__",
    "__reduce__", "__reduce_ex__", "__repr__", "__setattr__", "__sizeof__", "__spec__",
    "__str__", "__subclasshook__", "aiter", "anext", "breakpoint", "compile", "copyright",
    "credits", "dir", "eval", "exec", "exit", "globals", "help", "input", "license", "locals",
    "memoryview", "open", "print", "quit", "vars"]

/-- What the host knows by name. -/
def hostTable : Table :=
  (knownNames ++ ["print", "__import__"].map fun name => (name, .builtin name))
    ++ (hostOnlyNames.filter Fault.isKind).map fun name => (name, .type name)

/-- A name without the mark that a dialect puts before names of the host. -/
def withoutMark (name : String) : Option String :=
  if name.startsWith "py_" then some (String.ofList (name.toList.drop 3)) else none

/-- Whether a helper of a dialect may be bound under a name. -/
def isAdmitted (name : String) : Bool :=
  ! deniedNames.contains name && ! hostOnlyNames.contains name
    && ! (withoutMark name).any hostOnlyNames.contains

/-- The helpers that a context takes over. -/
def admitted (helpers : Table) : Table :=
  helpers.filter fun (name, _) => isAdmitted name && ! ownBindings.has name

/-- The known names of a context: what every snippet knows, its own `print`, and its import
guard. -/
def knownTable (allowed : List String) : Table :=
  (knownNames.put "print" (.own .print)).put "__import__" (.own (.importer allowed))

/-- The names that a snippet starts with; `known` is where the known names are. -/
def startNames (helpers : Table) (known : Value) : Table :=
  ((Table.update [] (admitted helpers)).update ownBindings).update
    [("__builtins__", known), ("__name__", .text "__main__")]

/-- The names of a table apart from those of the machinery, in order. -/
def capabilitiesOf (names : Table) : List String :=
  ((names.map (·.1)).filter fun name => name != "__builtins__" && name != "__name__").mergeSort
    (fun a b => decide (a ≤ b))

end SnippetRunner.Sandbox
