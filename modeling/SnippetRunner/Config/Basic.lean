import SnippetRunner.Data
import SnippetRunner.Sandbox.Modules

/-!
# Settings

The settings of the engine and of the server, each a plain value as a document gives it. The
engine's limits are checked after they have been read; a value that cannot be compared with a
number is found then.
-/

namespace SnippetRunner

namespace Config

/-- Settings of the engine. -/
structure EngineSettings where
  deadline : Data := .float 1.5
  maxDeadline : Data := .float 10.0
  maxOutput : Data := .int 50000
  allowedModules : Data := .list (Sandbox.defaultModules.map .text)
  deriving Inhabited

/-- Settings of the server. -/
structure ServerSettings where
  host : Data := .text "0.0.0.0"
  port : Data := .int 5000
  maxBody : Data := .int 1048576
  deriving Inhabited

/-- All settings. -/
structure Settings where
  engine : EngineSettings := {}
  server : ServerSettings := {}
  logLevel : Data := .text "INFO"
  deriving Inhabited

/-- Why settings are not accepted. -/
inductive Fault where
  /-- The document says something that is no setting. -/
  | rejected (message : String)
  /-- A value breaks the checks or the reading itself. -/
  | failed (problem : Problem)
  deriving Repr, DecidableEq

/-- What a caller is told. -/
def Fault.problem : Fault → Problem
  | .rejected message => ⟨"ConfigurationError", message⟩
  | .failed problem => problem

namespace EngineSettings

/-- Checks the limits: all are positive, and the deadline is not above the greatest one. -/
def validate (s : EngineSettings) : Except Fault Unit := do
  if ← s.deadline.notPositive.mapError .failed then
    let given ← s.deadline.print.mapError .failed
    throw (.rejected s!"engine.deadline_seconds must be positive, got {given}")
  if ← (s.maxDeadline.less s.deadline).mapError .failed then
    throw (.rejected "engine.max_deadline_seconds must be >= engine.deadline_seconds")
  if ← s.maxOutput.notPositive.mapError .failed then
    let given ← s.maxOutput.print.mapError .failed
    throw (.rejected s!"engine.max_output_chars must be positive, got {given}")

/-- The float that a number is. -/
def realOf (v : Data) : Except Problem Data :=
  match v.numeric? with
  | some (.int n) =>
    match Number.ofInt? n with
    | some x => .ok (.float x)
    | none => .error ⟨"OverflowError", "int too large to convert to float"⟩
  | some (.float x) => .ok (.float x)
  | none => .error ⟨"TypeError",
    s!"float() argument must be a string or a real number, not '{v.typeName}'"⟩

/-- The deadline of one run: what is asked for, at most the greatest one; without a positive wish
the usual one. -/
def clampDeadline (s : EngineSettings) (requested : Data) : Except Problem Data := do
  match requested with
  | .null => return s.deadline
  | _ =>
    if ← requested.notPositive then return s.deadline
    else
      let wish ← realOf requested
      return if ← s.maxDeadline.less wish then s.maxDeadline else wish

end EngineSettings

end Config

end SnippetRunner
