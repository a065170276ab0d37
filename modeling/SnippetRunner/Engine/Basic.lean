import SnippetRunner.Dialect.Handle
import SnippetRunner.Run.Timeout

/-!
# The engine

A request names a dialect by a tag and brings a source. The engine finds the dialect, gets its
transpiler if it needs one, and runs the source in a context made for this run alone. The engine
knows nothing of the language it runs, and nothing of a transpiler but how it prepares sources and
which helpers it brings.
-/

namespace SnippetRunner

open SnippetRunner.Fault

/-- What the engine knows of a transpiler; `χ` are its helpers. -/
structure Transpiler (χ : Type) where
  prepare : Preparation
  helpers : χ

/-- What a request brings as its source: a text, or something that is none. -/
inductive Source where
  | text (s : String)
  | other (typeName : String)
  deriving Repr, DecidableEq

/-- The source that plain data is. -/
def Source.ofData : Data → Source
  | .text s => .text s
  | v => .other v.typeName

/-- The text of a source. -/
def Source.read : Source → Except Problem String
  | .text s => .ok s
  | .other typeName => .error ⟨"TypeError", s!"object of type '{typeName}' has no len()"⟩

/-- A request. -/
structure Request where
  dialect : Data := .text "python"
  source : Source
  deadline : Data := .null

/-- An engine: its settings, its language, and how it makes contexts. -/
structure Engine (κ π ν σ χ : Type) where
  settings : Config.EngineSettings
  language : Language Float κ π ν σ
  /-- Makes a context with the helpers of a dialect, if it has any. -/
  build : Option χ → σ → Context Float κ ν × σ

/-- What outlives a run. -/
structure Process (σ χ : Type) where
  handles : Handles (Transpiler χ)
  registry : Registry := {}
  objects : σ

/-- What a caller of the engine is handed: an outcome, or an error that nothing holds back. -/
structure Answered where
  outcome : Except Problem Outcome
  log : List Record := []

variable {κ π ν σ χ : Type}

/-- The transpiler that a dialect needs, or the outcome without one. -/
inductive Readiness (χ : Type) where
  | native
  | foreign (transpiler : Transpiler χ)
  | unavailable (message : String)
  | broken (error : Raised)

/-- Gets a dialect ready. -/
def Process.prepareDialect (p : Process σ χ) (dialect : Dialect) :
    Readiness χ × List Record × Process σ χ :=
  if dialect.isForeign then
    match p.handles.get? dialect with
    | none => (.unavailable s!"No transpiler registered for '{dialect.name}'", [], p)
    | some handle =>
      let (ensured, handle) := handle.ensure
      let p := { p with handles := p.handles.set dialect handle }
      match ensured.result with
      | .ok (.ready transpiler) => (.foreign transpiler, ensured.log, p)
      | .ok (.unavailable message) => (.unavailable message, ensured.log, p)
      | .error error => (.broken error, ensured.log, p)
  else (.native, [], p)

/-- What is noted when a run begins, with its deadline as it is written. -/
def runningRecord (dialect : Data) (source seconds : String) : Record :=
  let tag := if dialect.isTrue then dialect.shown else "python"
  ⟨.debug, "snipbox.engine",
    s!"Running {source.length} chars as {tag} (deadline={seconds}s)"⟩

namespace Engine

/-- Runs a source whose dialect is ready, up to a deadline in seconds. -/
def runSource (e : Engine κ π ν σ χ) (began : Record) (source : String) (seconds : Data)
    (transpiler : Option (Transpiler χ)) (p : Process σ χ) : Answered × Process σ χ :=
  let (context, objects) := e.build (transpiler.map (·.helpers)) p.objects
  match Deadline.positive seconds with
  | .error problem => (⟨.error problem, [began]⟩, { p with objects })
  | .ok deadline =>
    let (finished, registry) :=
      (SnippetRunner.execute e.language deadline source context objects
        (transpiler.map (·.prepare))).run RegistryStep.perform p.registry
    (⟨finished.outcome.mapError Raised.problem, began :: finished.log⟩,
      { p with registry, objects := finished.objects })

/-- What a request comes down to: its source, its deadline in seconds, and what is noted when it
begins to run. An integer that no float reaches cannot be written as a deadline. -/
def wish (e : Engine κ π ν σ χ) (request : Request) : Except Problem (String × Data × Record) := do
  let seconds ← e.settings.clampDeadline request.deadline
  let source ← request.source.read
  let written ← secondsOf seconds
  return (source, seconds, runningRecord request.dialect source (Number.generalText written))

/-- Runs a request whose dialect is ready. -/
def runReady (e : Engine κ π ν σ χ) (request : Request) (transpiler : Option (Transpiler χ))
    (p : Process σ χ) : Answered × Process σ χ :=
  match e.wish request with
  | .error problem => (⟨.error problem, []⟩, p)
  | .ok (source, seconds, began) => e.runSource began source seconds transpiler p

/-- Runs a request. -/
def execute (e : Engine κ π ν σ χ) (request : Request) (p : Process σ χ) :
    Answered × Process σ χ :=
  match resolveTag request.dialect with
  | .error bad => (⟨.error bad.problem, []⟩, p)
  | .ok dialect =>
    let (readiness, log, p) := p.prepareDialect dialect
    match readiness with
    | .unavailable message => (⟨.ok (.unavailable message dialect.name), log⟩, p)
    | .broken error => (⟨.error error.problem, log⟩, p)
    | .native =>
      let (answered, p) := e.runReady request none p
      ({ answered with log := log ++ answered.log }, p)
    | .foreign transpiler =>
      let (answered, p) := e.runReady request (some transpiler) p
      ({ answered with log := log ++ answered.log }, p)

end Engine

end SnippetRunner
