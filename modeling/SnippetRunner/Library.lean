import SnippetRunner.Library.Amount
import SnippetRunner.Library.Calendar
import SnippetRunner.Library.Containers
import SnippetRunner.Library.Iteration
import SnippetRunner.Library.Writing

/-!
# The library of snippets

Modules that are written in the language of snippets themselves. They are loaded when they are
imported for the first time.
-/

namespace SnippetRunner.Library

/-- A text without the indentation that all its lines have. -/
def unindented (text : String) : String :=
  String.intercalate "\n" ((text.splitOn "\n").map fun line => String.ofList (line.toList.drop 2))

/-- The texts of the modules by their names. -/
def texts : List (String × String) :=
  [("operator", operatorText),
    ("bisect", bisectText),
    ("heapq", heapqText),
    ("collections.abc", collectionsAbcText),
    ("collections", collectionsText),
    ("itertools", itertoolsText),
    ("functools", functoolsText),
    ("string", stringText),
    ("textwrap", textwrapText),
    ("re", reText),
    ("json", jsonText),
    ("json.decoder", jsonDecoderText),
    ("json.encoder", jsonEncoderText),
    ("fractions", fractionsText),
    ("decimal", decimalText),
    ("statistics", statisticsText),
    ("random", randomText),
    ("datetime", datetimeText)]

/-- The text of a module. -/
def text? (name : String) : Option String := (texts.lookup name).map unindented

end SnippetRunner.Library
