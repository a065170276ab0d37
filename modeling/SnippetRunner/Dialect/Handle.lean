import SnippetRunner.Dialect.Tag
import SnippetRunner.Fault.Raised
import SnippetRunner.Log
import SnippetRunner.Run.Effect
import SnippetRunner.Sandbox.Modules

/-!
# Acquiring a transpiler

A handle loads its dialect's transpiler when it is first asked for and keeps the result, good or
bad. Callers look at the result without the lock first; a caller that finds none takes the lock,
looks again, and loads. Each of these is one step on the handle, between which other callers may
take theirs.
-/

namespace SnippetRunner

open SnippetRunner.Fault

/-- What came of loading. -/
inductive Acquired (α : Type) where
  | ready (transpiler : α)
  | unavailable (message : String)

/-- Where a handle stands. -/
inductive HandleState where
  | absent
  | available
  | failed
  deriving Repr, DecidableEq

/-- The name of a state. -/
def HandleState.name : HandleState → String
  | .absent => "absent"
  | .available => "available"
  | .failed => "failed"

/-- A handle. Its loader may do something else each time it is run. -/
structure Handle (α : Type) where
  dialect : Dialect
  package : String
  load : Nat → Except Raised α
  result : Option (Acquired α) := none
  attempts : Nat := 0
  locked : Bool := false

namespace Handle

variable {α : Type}

/-- Where a handle stands. -/
def state (h : Handle α) : HandleState :=
  match h.result with
  | none => .absent
  | some (.ready _) => .available
  | some (.unavailable _) => .failed

/-- The logger of everything about transpilers. -/
def loggerName : String := "snipbox.dialects.transpilers"

/-- What comes of a run of the loader, and what is noted about it. An error that is meant to stop
the process is handed on. -/
def acquire (dialect : Dialect) (package : String) (loaded : Except Raised α) :
    Except Raised (Acquired α × Record) :=
  let name := dialect.name
  match loaded with
  | .ok transpiler =>
    .ok (.ready transpiler,
      ⟨.info, loggerName, s!"Transpiler for {name} ready ({package})"⟩)
  | .error error =>
    if isKindOf error.kind "ImportError" then
      let own := OwnError.transpilerUnavailable (.text name) (Text.capitalize name)
        (.text package) (.text error.text)
      .ok (.unavailable own.message,
        ⟨.warning, loggerName, s!"Transpiler for {name} unavailable: {error.text}"⟩)
    else if isKindOf error.kind "Exception" then
      .ok (.unavailable
          s!"{Text.capitalize name} transpiler failed to initialize: {error.text}",
        ⟨.error, loggerName, s!"Transpiler for {name} failed to initialize: {error.text}"⟩)
    else .error error

/-- Runs the loader and keeps what came of it. -/
def loadNow (h : Handle α) : Except Raised (Acquired α × Record) × Handle α :=
  let h := { h with attempts := h.attempts + 1 }
  match acquire h.dialect h.package (h.load h.attempts) with
  | .ok (result, record) => (.ok (result, record), { h with result := some result })
  | .error error => (.error error, h)

end Handle

/-- A step of a caller on a handle. -/
inductive HandleStep where
  | read
  /-- Takes the lock, which has to be free. -/
  | lock
  | load
  | unlock
  deriving Repr, DecidableEq

/-- The answer to a step. -/
inductive HandleReply (α : Type) where
  | result (r : Option (Acquired α))
  | done
  | loaded (r : Except Raised (Acquired α × Record))

/-- Takes a step. -/
def HandleStep.perform {α : Type} : HandleStep → Handle α → HandleReply α × Handle α
  | .read, h => (.result h.result, h)
  | .lock, h => (.done, { h with locked := true })
  | .load, h =>
    let (loaded, h) := h.loadNow
    (.loaded loaded, h)
  | .unlock, h => (.done, { h with locked := false })

/-- What a caller is handed, with what was noted meanwhile. -/
structure Ensured (α : Type) where
  result : Except Raised (Acquired α)
  log : List Record := []

/-- What a caller does to get the transpiler, step by step. -/
def ensureScript (α : Type) : Script HandleStep (HandleReply α) (Ensured α) :=
  .act .read fun
    | .result (some r) => .stop ⟨.ok r, []⟩
    | _ => .act .lock fun _ => .act .read fun
      | .result (some r) => .act .unlock fun _ => .stop ⟨.ok r, []⟩
      | _ => .act .load fun
        | .loaded (.ok (r, record)) => .act .unlock fun _ => .stop ⟨.ok r, [record]⟩
        | .loaded (.error error) => .act .unlock fun _ => .stop ⟨.error error, []⟩
        | _ => .stop ⟨.ok (.unavailable ""), []⟩

/-- The transpiler of a handle, which is loaded if it is not yet. -/
def Handle.ensure {α : Type} (h : Handle α) : Ensured α × Handle α :=
  (ensureScript α).run HandleStep.perform h

/-! ## Health of the dialects

Whether each dialect can be used is found out without loading anything. -/

/-- What is known of a dialect. -/
structure Health where
  dialect : Dialect
  available : Bool
  detail : String
  deriving Repr, DecidableEq

/-- The handles that are registered. -/
abbrev Handles (α : Type) := List (Dialect × Handle α)

namespace Handles

variable {α : Type}

/-- The handle of a dialect. -/
def get? (handles : Handles α) (dialect : Dialect) : Option (Handle α) :=
  (handles.find? (·.1 == dialect)).map (·.2)

/-- Replaces the handle of a dialect. -/
def set (handles : Handles α) (dialect : Dialect) (h : Handle α) : Handles α :=
  handles.map fun entry => if entry.1 == dialect then (entry.1, h) else entry

end Handles

/-- Whether a package can be found; below a package that is missing, asking fails. -/
def findPackage (installed : List String) (package : String) : Except Problem Bool :=
  if package.startsWith "." then
    .error ⟨"ImportError",
      s!"no package specified for '{package}' (required for relative module names)"⟩
  else if installed.contains package then .ok true
  else match Sandbox.locate package with
    | .ok _ => .ok true
    | .error .emptyName => .ok false
    | .error (.notPackage name parent) =>
      if name == package then
        .error ⟨"ModuleNotFoundError",
          s!"__path__ attribute not found on '{parent}' while trying to find '{package}'"⟩
      else .error (Sandbox.ImportFault.notPackage name parent).problem
    | .error fault =>
      if fault == .missing package then .ok false else .error fault.problem

/-- The health of a foreign dialect with a handle, if there is one. -/
def Handle.health {α : Type} (installed : List String) (dialect : Dialect) :
    Option (Handle α) → Except Problem Health
  | none => .ok ⟨dialect, false, "not registered"⟩
  | some h =>
    let package := h.package
    match h.state with
    | .available => .ok ⟨dialect, true, s!"{package} loaded"⟩
    | .failed => .ok ⟨dialect, false, s!"{package} failed to load (pip install {package})"⟩
    | .absent => do
      if ← findPackage installed package then return ⟨dialect, true, s!"{package} available"⟩
      else return ⟨dialect, false, s!"{package} not installed (pip install {package})"⟩

/-- The health of all dialects, the native one first. -/
def health {α : Type} (installed : List String) (handles : Handles α) :
    Except Problem (List Health) := do
  let foreign ← Dialect.foreign.mapM fun d => Handle.health installed d (handles.get? d)
  return ⟨.python, true, "host-native"⟩ :: foreign

/-- What a caller is told who asks for the handle of an unknown dialect. -/
def noHandleProblem (shown : String) : Problem :=
  ⟨"ValueError", s!"No transpiler registered for dialect '{shown}'"⟩

end SnippetRunner
