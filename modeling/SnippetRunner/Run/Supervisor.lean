import SnippetRunner.Fault.Raised
import SnippetRunner.Log
import SnippetRunner.Run.Effect
import SnippetRunner.Run.Language
import SnippetRunner.Run.Outcome

/-!
# Supervised runs

A run takes its number, prepares its source, evaluates it up to a deadline, and always closes its
context and takes its source out again. Every error of the snippet becomes a fault, and so does every
error of the preparation but those that stop the process itself and those that cannot be reported.
-/

namespace SnippetRunner

open SnippetRunner.Timer SnippetRunner.Fault

/-- How far a run has come. -/
inductive RunState where
  | pending
  | transpiling
  | evaluating
  | completed
  | faulted
  | timedOut
  deriving Repr, DecidableEq

/-- The name of a state. -/
def RunState.name : RunState → String
  | .pending => "pending"
  | .transpiling => "transpiling"
  | .evaluating => "evaluating"
  | .completed => "completed"
  | .faulted => "faulted"
  | .timedOut => "timed_out"

/-- The state that an outcome leaves a run in. -/
def Outcome.finalState : Outcome → RunState
  | .fault _ .timeout => .timedOut
  | .fault _ _ => .faulted
  | _ => .completed

/-- How long a run may take. -/
structure Deadline (τ : Type) where
  /-- The moment after which nothing is run. -/
  moment : τ
  /-- What is told of a run that was stopped. -/
  message : String
  /-- Why it cannot be waited for. -/
  unusable : Option Problem := none
  /-- How many turns its callbacks may take before the run counts as one that never ends. -/
  turns : Nat := turnBudget

/-- What a preparation does with a source. -/
structure Prepared where
  result : Except Raised String
  log : List Record := []

/-- A preparation of sources. -/
abbrev Preparation := String → Prepared

/-- The name of the file that a run's source counts as. -/
def snippetFile (run : Nat) : String := s!"<snippet-{run}>"

/-- What a run leaves behind. -/
structure Finished (τ κ ν σ : Type) where
  /-- The outcome, or an error that the run does not hold back. -/
  outcome : Except Raised Outcome
  context : Context τ κ ν
  objects : σ
  log : List Record

variable {τ κ π ν σ : Type} [Add τ] [Sub τ] [LT τ] [DecidableLT τ] [Zero τ]

/-- The outcome of an evaluation that ended. -/
def outcomeOf (file : String) (deadline : Deadline τ) (ending : Ending Report)
    (output : Capture.Buffer) : Registered Outcome := do
  match deadline.unusable, ending with
  | some problem, _ => return .fault (← Registered.render (reportOfProblem problem)) .evaluation
  | none, .late => return .fault deadline.message .timeout
  | none, .endless => return .fault deadline.message .timeout
  | none, .failed report =>
    return .fault (← Registered.render (report.within file)) .evaluation
  | none, .done =>
    match output.value with
    | .ok text => return .success text
    | .error notText =>
      return .fault (← Registered.render (reportOfProblem notText.problem)) .evaluation

/-- Evaluates a source in a context. -/
def evaluateSource (l : Language τ κ π ν σ) (file : String) (deadline : Deadline τ)
    (source : String) (context : Context τ κ ν) (objects : σ) :
    Registered (Outcome × Context τ κ ν × σ) := do
  Registered.register file source
  match l.compile file source with
  | .error report => return (.fault (← Registered.render report) .evaluation, context, objects)
  | .ok program =>
    match l.evaluate deadline.turns deadline.moment program context.names context.surroundings
        objects with
    | (ending, surroundings, objects) =>
      let outcome ← outcomeOf file deadline ending surroundings.buffer
      return (outcome, { context with surroundings }, objects)

/-- The outcome for an error of the preparation. Those that are meant to stop the process are
handed on; where an error cannot be reported, what goes wrong with the report is raised in its
place. -/
def preparationOutcome (error : Raised) : Registered (Except Raised Outcome) := do
  if isKindOf error.kind "TranspileError" then return .ok (.fault error.text .transpile)
  else if isKindOf error.kind "Exception" then
    match error.reportProblem? with
    | some problem => return .error (.ofProblem problem)
    | none =>
      let report := { error.report with frames := [.outside "prepare"] }
      return .ok (.fault (← Registered.render report) .transpile)
  else return .error error

/-- How far a run has come that raises an error: the one that the preparation raised leaves it
there, and one that is raised in its place comes after that. -/
def stateOfEscape (error : Raised) : RunState :=
  if isKindOf error.kind "Exception" then .faulted else .transpiling

/-- What is noted when a run ends. -/
def finishedRecord (run : Nat) (state : RunState) : Record :=
  ⟨.debug, "snipbox.sandbox.supervisor", s!"Run {run} finished: state={state.name}"⟩

/-- Ends a run: closes its context, and takes its source out. -/
def finishRun (l : Language τ κ π ν σ) (run : Nat) (outcome : Except Raised Outcome)
    (context : Context τ κ ν) (objects : σ) (log : List Record) :
    Registered (Finished τ κ ν σ) := do
  let (context, objects) := context.close l.clear objects
  Registered.remove (snippetFile run)
  let state := match outcome with
    | .ok o => o.finalState
    | .error error => stateOfEscape error
  return { outcome, context, objects, log := log ++ [finishedRecord run state] }

/-- Runs a source in a context of its own, after its preparation if there is one. -/
def execute (l : Language τ κ π ν σ) (deadline : Deadline τ) (source : String)
    (context : Context τ κ ν) (objects : σ) (prepare : Option Preparation) :
    Registered (Finished τ κ ν σ) := do
  let run ← Registered.takeNumber
  let prepared := match prepare with
    | none => Prepared.mk (.ok source) []
    | some f => f source
  match prepared.result with
  | .error error =>
    finishRun l run (← preparationOutcome error) context objects prepared.log
  | .ok source =>
    let (outcome, context, objects) ←
      evaluateSource l (snippetFile run) deadline source context objects
    finishRun l run (.ok outcome) context objects prepared.log

end SnippetRunner
