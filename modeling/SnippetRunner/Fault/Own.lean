import SnippetRunner.Data
import SnippetRunner.Number.Shortest
import SnippetRunner.Text.LetterCase

/-!
# The runner's own errors

What they say, what a user is told and what a user is advised to do.
-/

namespace SnippetRunner.Fault

/-- The runner's own errors that carry more than a message. -/
inductive OwnError where
  /-- The transpiler of a dialect, which is shown by a label, is not installed. -/
  | transpilerUnavailable (dialect : Data) (label : String) (package detail : Data)
  /-- A dialect's transpiler refuses a source, perhaps at a line. -/
  | transpileFailed (dialect message line : Data)
  /-- A run took longer than its deadline; also the whole milliseconds of it. -/
  | timedOut (timeout : Data) (seconds : Float) (millis : Int)

/-- A product of a plain value and a thousand, rounded to a whole number, halves to even. -/
def millisOf : Data → Except Problem Int
  | .bool b => .ok (if b then 1000 else 0)
  | .int n => .ok (n * 1000)
  | .float x =>
    let scaled := x * 1000.0
    match Number.roundToInt? scaled with
    | some n => .ok n
    | none =>
      if scaled.isNaN then .error ⟨"ValueError", "cannot convert float NaN to integer"⟩
      else .error ⟨"OverflowError", "cannot convert float infinity to integer"⟩
  | v@(.null) | v@(.mapping _) | v@(.set _) =>
    .error ⟨"TypeError", s!"unsupported operand type(s) for *: '{v.typeName}' and 'int'"⟩
  | v => .error ⟨"TypeError", s!"type {v.typeName} doesn't define __round__ method"⟩

/-- A number as a float. -/
def secondsOf : Data → Except Problem Float
  | .bool b => .ok (if b then 1.0 else 0.0)
  | .int n =>
    match Number.ofInt? n with
    | some x => .ok x
    | none => .error ⟨"OverflowError", "int too large to convert to float"⟩
  | .float x => .ok x
  | v => .error ⟨"TypeError", s!"unsupported format string passed to {v.typeName}.__format__"⟩

/-- The label of a dialect: its name with a capital, as it is shown. -/
def labelOf : Data → Except Problem String
  | .text s => .ok (Text.capitalize s)
  | .bytes bs =>
    let letters := bs.map fun b => Char.ofNat b.toNat
    let capital := match letters with
      | c :: rest => c.toUpper :: rest.map Char.toLower
      | [] => []
    .ok (Text.quotedBytes (capital.map fun c => UInt8.ofNat c.toNat))
  | v => .error ⟨"AttributeError", s!"'{v.typeName}' object has no attribute 'capitalize'"⟩

namespace OwnError

/-- The error for a dialect whose transpiler is not installed. -/
def unavailable (dialect package detail : Data) : Except Problem OwnError := do
  return .transpilerUnavailable dialect (← labelOf dialect) package detail

/-- The timeout error for a deadline. -/
def timeout (deadline : Data) : Except Problem OwnError := do
  let millis ← millisOf deadline
  let seconds ← secondsOf deadline
  return .timedOut deadline seconds millis

/-- The message of an error. -/
def message : OwnError → String
  | .transpilerUnavailable _ label package _ =>
    let package := package.shown
    s!"{label} requested but '{package}' is not installed. " ++
      s!"Run: pip install {package}"
  | .transpileFailed dialect message line =>
    let location := if line.isTrue then s!" (line {line.shown})" else ""
    s!"{dialect.shown} transpile failed{location}: {message.shown}"
  | .timedOut _ _ millis => s!"Script execution timed out after {millis}ms"

/-- What a user is told. -/
def userMessage : OwnError → String
  | .transpilerUnavailable _ label _ _ => s!"The {label} transpiler is not available."
  | .transpileFailed dialect _ _ => s!"The {dialect.shown} source has syntax errors."
  | .timedOut _ seconds _ =>
    s!"Code execution took longer than {Number.generalText seconds} seconds."

/-- What is suggested to a user. -/
def recoveryHint : OwnError → String
  | .transpilerUnavailable _ _ package _ => s!"Install it with: pip install {package.shown}"
  | .transpileFailed _ _ _ => "Fix the reported line and run again."
  | .timedOut _ _ _ => "Look for an infinite loop or a timer that is never cancelled."

/-- Everything a user is shown. -/
def explanation (e : OwnError) : String := e.userMessage ++ "\n\nHint: " ++ e.recoveryHint

/-- The details of an error, by name. -/
def details : OwnError → List (String × Data)
  | .transpilerUnavailable dialect _ package detail =>
    [("dialect", dialect), ("package", package), ("detail", detail)]
  | .transpileFailed dialect _ line => [("dialect", dialect), ("lineno", line)]
  | .timedOut timeout _ _ => [("timeout", timeout)]

end OwnError

end SnippetRunner.Fault
