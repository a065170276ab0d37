import SnippetRunner.Config.Basic
import SnippetRunner.Fault.Own
import SnippetRunner.Run.Supervisor

/-!
# Deadlines in seconds

The deadline of a run from a plain number of seconds: the moment it stands for, what is told when
it has passed, and whether it can be waited for at all.
-/

namespace SnippetRunner

/-- What is told of a run that took longer than so many seconds. -/
def timeoutMessage (seconds : Data) : String :=
  match Fault.OwnError.timeout seconds with
  | .ok own => "ExecutionTimeoutError: " ++ own.message
  | .error _ => "ExecutionTimeoutError"

/-- The seconds from which on nothing can wait. -/
def longestWait : Float := 9223372036.854775807

/-- Why a moment cannot be waited for. -/
def waitingProblem? (x : Float) : Option Problem :=
  if x.isNaN then some ⟨"ValueError", "Invalid value NaN (not a number)"⟩
  else if longestWait ≤ x then
    some ⟨"OverflowError", "timestamp too large to convert to C _PyTime_t"⟩
  else none

/-- The deadline of so many seconds after the start. -/
def Deadline.ofSeconds (seconds : Data) : Deadline Float :=
  match seconds.numeric? with
  | some (.float x) =>
    { moment := 0.0 + x, message := timeoutMessage seconds, unusable := waitingProblem? (0.0 + x) }
  | some (.int n) =>
    match Number.ofInt? n with
    | some x =>
      { moment := 0.0 + x, message := timeoutMessage seconds
        unusable := waitingProblem? (0.0 + x) }
    | none =>
      { moment := 0.0, message := ""
        unusable := some ⟨"OverflowError", "int too large to convert to float"⟩ }
  | none =>
    { moment := 0.0, message := ""
      unusable := some ⟨"TypeError",
        s!"unsupported operand type(s) for +: 'float' and '{seconds.typeName}'"⟩ }

/-- The deadline of a supervisor, which has to be positive. -/
def Deadline.positive (seconds : Data) : Except Problem (Deadline Float) := do
  if ← seconds.notPositive then throw ⟨"ValueError", "deadline_seconds must be positive"⟩
  return .ofSeconds seconds

end SnippetRunner
