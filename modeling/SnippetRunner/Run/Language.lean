import SnippetRunner.Fault.Report
import SnippetRunner.Run.Effect
import SnippetRunner.Timer.Agenda

/-!
# Languages

What a run has to know about the language of its snippets: how a source becomes a program, what a
program and a callback do, and how names are cleared. Everything else about a run is the same for
all languages.

All runs of a process share the number of the next run, and the sources that reports may show. A
run touches them in single steps, between which other runs may take theirs.
-/

namespace SnippetRunner

open SnippetRunner.Timer SnippetRunner.Fault

/-- Work of a snippet: a script over its requests, which ends and leaves changed objects. -/
abbrev Work (τ κ σ : Type) := Script (Effect τ κ) EffectReply (Ending Report × σ)

/-- A language: its programs are of type `π`, their names of type `ν`, the objects they change of
type `σ`, and the callbacks of its timers of type `κ`. -/
structure Language (τ κ π ν σ : Type) where
  /-- The program of a source with a file name, or the report of its refusal. -/
  compile : (file source : String) → Except Report π
  body : π → ν → σ → Work τ κ σ
  callback : κ → σ → Work τ κ σ
  /-- Takes all names away. -/
  clear : ν → σ → σ

variable {τ κ π ν σ : Type} [Add τ] [Sub τ] [LT τ] [DecidableLT τ] [Zero τ]

/-- Does some work in its surroundings. -/
def Work.perform (work : Work τ κ σ) (s : Surroundings τ κ) :
    Ending Report × Surroundings τ κ × σ :=
  match work.run Effect.perform s with
  | ((ending, objects), s) => (ending, s, objects)

/-- How many turns a drain takes, unless more are allowed, before it counts as one that never
ends. -/
def turnBudget : Nat := 100000

/-- Runs a callback, which may write and change the agenda and the objects. -/
def Language.invoke (l : Language τ κ π ν σ) (callback : κ) (agenda : Agenda τ κ)
    (memory : Capture.Buffer × σ) : Ending Report × Agenda τ κ × Capture.Buffer × σ :=
  match (l.callback callback memory.2).perform { buffer := memory.1, agenda } with
  | (ending, s, objects) => (ending, s.agenda, s.buffer, objects)

/-- Runs the callbacks that are waiting, up to the deadline. -/
def Language.drain (l : Language τ κ π ν σ) (turns : Nat) (deadline : τ) (s : Surroundings τ κ)
    (objects : σ) : Ending Report × Surroundings τ κ × σ :=
  match Timer.drain l.invoke turns (some deadline) s.agenda (s.buffer, objects) with
  | (ending, agenda, buffer, objects) => (ending, { buffer, agenda }, objects)

/-- Evaluates a program: its body, and if that ends by itself, the callbacks that are waiting. -/
def Language.evaluate (l : Language τ κ π ν σ) (turns : Nat) (deadline : τ) (program : π)
    (names : ν) (s : Surroundings τ κ) (objects : σ) : Ending Report × Surroundings τ κ × σ :=
  match (l.body program names objects).perform s with
  | (.done, s, objects) => l.drain turns deadline s objects
  | ended => ended

open SnippetRunner.Fault

/-- The shared state. -/
structure Registry where
  nextRun : Nat := 1
  sources : SourceLines := []

/-- A step of a run on the shared state. -/
inductive RegistryStep where
  /-- Takes the number of a run. -/
  | takeNumber
  | register (file source : String)
  | remove (file : String)
  /-- Writes a report with the source lines it shows. -/
  | render (report : Report)

/-- The answer to a step. -/
inductive RegistryReply where
  | number (n : Nat)
  | nothing
  | text (s : String)
  deriving Repr, DecidableEq

/-- Takes a step. -/
def RegistryStep.perform : RegistryStep → Registry → RegistryReply × Registry
  | .takeNumber, r => (.number r.nextRun, { r with nextRun := r.nextRun + 1 })
  | .register file source, r => (.nothing, { r with sources := r.sources.register file source })
  | .remove file, r => (.nothing, { r with sources := r.sources.remove file })
  | .render report, r => (.text (report.text r.sources), r)

/-- Work that is done in steps on the shared state. -/
abbrev Registered (α : Type) := Script RegistryStep RegistryReply α

namespace Registered

/-- Takes the number of a run. -/
def takeNumber : Registered Nat :=
  .act .takeNumber fun
    | .number n => .stop n
    | _ => .stop 0

/-- Registers a source. -/
def register (file source : String) : Registered Unit :=
  .act (.register file source) fun _ => .stop ()

/-- Takes a source out. -/
def remove (file : String) : Registered Unit := .act (.remove file) fun _ => .stop ()

/-- Writes a report. -/
def render (report : Report) : Registered String :=
  .act (.render report) fun
    | .text s => .stop s
    | _ => .stop ""

end Registered

end SnippetRunner
