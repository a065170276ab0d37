import SnippetRunner.Data
import SnippetRunner.Text.Blank

/-!
# Outcomes of a run

A run succeeds with its output, fails with a diagnostic, or cannot start because its dialect's
transpiler is missing. A caller is handed a status and one text.
-/

namespace SnippetRunner

/-- Where a run failed. -/
inductive FaultKind where
  | transpile
  | evaluation
  | timeout
  deriving Repr, DecidableEq

/-- The name of a kind of fault. -/
def FaultKind.name : FaultKind → String
  | .transpile => "transpile"
  | .evaluation => "evaluation"
  | .timeout => "timeout"

/-- The kind of fault with a name. -/
def FaultKind.ofName? (name : String) : Option FaultKind :=
  [FaultKind.transpile, .evaluation, .timeout].find? (·.name == name)

/-- How a run ended. -/
inductive Outcome where
  | success (text : String)
  | fault (diagnostic : String) (kind : FaultKind)
  | unavailable (message : String) (dialect : String)
  deriving Repr, DecidableEq

/-- The status a caller sees. -/
inductive Status where
  | ok
  | dependencyMissing
  | fault
  deriving Repr, DecidableEq

/-- The name of a status. -/
def Status.name : Status → String
  | .ok => "ok"
  | .dependencyMissing => "dependency-missing"
  | .fault => "fault"

/-- What stands for an output without any text. -/
def noOutput : String := "(no output)"

namespace Outcome

/-- The text a caller sees: the output without blanks around it, or the diagnostic as it is. -/
def format : Outcome → String
  | .success text =>
    let shown := Text.strip text
    if shown.isEmpty then noOutput else shown
  | .fault diagnostic _ => if diagnostic.isEmpty then "Unknown error" else diagnostic
  | .unavailable message dialect =>
    if message.isEmpty then s!"Transpiler for '{dialect}' is not available" else message

/-- The status of an outcome. -/
def status : Outcome → Status
  | .success _ => .ok
  | .fault _ _ => .fault
  | .unavailable _ _ => .dependencyMissing

end Outcome

/-- What a caller is handed. -/
structure Response where
  status : Status
  text : String
  deriving Repr, DecidableEq

/-- Whether a response reports success. -/
def Response.isOk (r : Response) : Bool := r.status == .ok

/-- The response for an outcome. -/
def Outcome.toResponse (o : Outcome) : Response := ⟨o.status, o.format⟩

/-! ## Outcomes of plain values -/

/-- An outcome whose parts may be any values. -/
inductive LooseOutcome where
  | success (text : Data)
  | fault (diagnostic : Data)
  | unavailable (message dialect : Data)
  /-- Something that is no outcome. -/
  | other (v : Data)

namespace LooseOutcome

/-- Bytes without blanks around them. -/
def stripBytes (bs : List UInt8) : List UInt8 :=
  let isBlank (b : UInt8) : Bool := b == 32 || (9 ≤ b && b ≤ 13)
  ((bs.dropWhile isBlank).reverse.dropWhile isBlank).reverse

/-- The output that a caller sees. -/
def outputOf (v : Data) : Except Problem Data :=
  if ! v.isTrue then .ok (.text noOutput)
  else match v with
    | .text s => .ok (.text (Outcome.success s).format)
    | .bytes bs =>
      let shown := stripBytes bs
      .ok (if shown.isEmpty then .text noOutput else .bytes shown)
    | v => .error ⟨"AttributeError", s!"'{v.typeName}' object has no attribute 'strip'"⟩

/-- What a caller sees. A value that counts as false gives way to what is told without one. -/
def format : LooseOutcome → Except Problem Data
  | .success v => outputOf v
  | .fault v => .ok (if v.isTrue then v else .text (Outcome.fault "" .evaluation).format)
  | .unavailable v dialect =>
    .ok (if v.isTrue then v else .text (Outcome.unavailable "" dialect.shown).format)
  | .other v => v.print.map .text

/-- The status of an outcome; what is none is a fault. -/
def status : LooseOutcome → Status
  | .success _ => .ok
  | .fault _ => .fault
  | .unavailable _ _ => .dependencyMissing
  | .other _ => .fault

end LooseOutcome

end SnippetRunner
