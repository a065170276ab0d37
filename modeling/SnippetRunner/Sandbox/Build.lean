import SnippetRunner.Evaluation.Execution
import SnippetRunner.Run.Effect
import SnippetRunner.Run.Language
import SnippetRunner.Sandbox.Names
import SnippetRunner.Snippet.Depth
import SnippetRunner.Snippet.Placement
import SnippetRunner.Snippet.Program

/-!
# Making contexts

A new context has its own names, an empty buffer and an empty agenda. The helpers of a dialect are
objects that outlive a context; everything else in it is made for it.
-/

namespace SnippetRunner.Sandbox

open SnippetRunner.Evaluation SnippetRunner.Snippet SnippetRunner.Fault

/-- The context of a snippet. -/
abbrev SnippetContext := Context Float Callback Nat

/-- What new contexts are made with. -/
structure Settings where
  /-- The modules that the import guard lets in. -/
  allowed : List String := defaultModules
  /-- The most that is captured of the output. -/
  cap : Capture.Cap := .whole 50000

/-- Makes a context. -/
def Settings.build (s : Settings) (helpers : Table) (h : Heap) : SnippetContext × Heap :=
  let (known, h) := h.allocate (.names (knownTable s.allowed))
  let names := startNames helpers (.ref known)
  let (address, h) := h.allocate (.names names)
  ({ names := address
     surroundings := { buffer := { cap := s.cap }, agenda := .empty 0.0 }
     capabilities := capabilitiesOf names }, h)

/-! ## Helpers -/

/-- A place outside any snippet. -/
def outsideSpan : Span := ⟨1, 0, 1, 0⟩

/-- A function outside any snippet that doubles a value. -/
def doubling : Function :=
  let value : Expr := .mk outsideSpan (.name "value")
  let two : Expr := .mk outsideSpan (.literal (.int 2))
  { name := "<lambda>", qualname := "<lambda>", file := (Frame.outside "").file
    parameters := .mk [] [.mk "value" outsideSpan none none] none [] none
    defaults := [], kind := .function, names := { locals := ["value"] }
    body := [.mk outsideSpan (.return_ (some (.mk outsideSpan (.binary .mul value two))))]
    suspends := false, line := 1, globals := 0, known := 0, closure := none }

/-- Makes a doubling helper for each name. -/
def makeHelpers (h : Heap) : List String → Table × Heap
  | [] => ([], h)
  | name :: rest =>
    let (address, h) := h.allocate (.function doubling)
    let (helpers, h) := makeHelpers h rest
    ((name, .ref address) :: helpers, h)

/-! ## The language of snippets -/

/-- A compiled source. -/
structure Program where
  file : String
  body : List Stmt

/-- The refusal of a source that holds what is no character of a source. -/
def characterProblem? (source : String) : Option Problem :=
  match Text.halfComplaint? source with
  | some complaint => some ⟨"UnicodeEncodeError", complaint⟩
  | none =>
    if source.toList.contains '\x00' then some ⟨"ValueError", Snippet.zeroComplaint⟩ else none

/-- The refusal of a program that goes too deep. -/
def depthProblem : Problem :=
  ⟨"RecursionError", "maximum recursion depth exceeded during compilation"⟩

/-- The report of a refused source; words that are nested too deeply have no place. -/
def refusedSource (file : String) (refusal : Refusal) : Report :=
  if refusal.kind = .exhausted then reportOfProblem ⟨refusal.kind.name, refusal.message⟩
  else reportOfRefusal file refusal

/-- Compiles a source; `quotes` tells whether its type hints stand for their own text. -/
def compileSource (file source : String) (quotes : Bool := true) : Except Report Program :=
  match characterProblem? source with
  | some problem => .error (reportOfProblem problem)
  | none =>
    match readProgram source quotes with
    | .error refusal => .error (refusedSource file refusal)
    | .ok body =>
      if deepestProgram < stmtsDepth body then .error (reportOfProblem depthProblem)
      else match checkProgram body with
        | .error refusal => .error (refusedSource file refusal)
        | .ok () => .ok ⟨file, body⟩

/-- A machine at the start of a program. Names without known names get those of the host. -/
def startMachine (p : Program) (names : Nat) (h : Heap) : Machine :=
  let h := setDefault h names "__builtins__" (.names hostTable)
  Machine.ofProgram h names p.file p.body

/-- The language of snippets. -/
def snippetLanguage : Language Float Callback Program Nat Heap where
  compile file source := compileSource file source
  body p names h := (startMachine p names h).runReporting
  callback callback h := (Machine.ofCallback h callback).runReporting
  clear names h := h.mapNames names fun _ => []

/-! ## Programs outside a run -/

/-- The class and the text of an error. -/
def problemOf (h : Heap) (error : Nat) :
    Script Evaluation.Request EffectReply (Problem × Heap) := do
  let (shown, h) ← shownOf h [error]
  let kind := ((h.error? error).map (·.kind)).getD .none
  return (⟨h.kindName kind, ((shown.head?).bind (·.text)).getD ""⟩, h)

/-- Runs a source in a context without supervision; no timer is run, and type hints have values. -/
def evaluateIn (context : SnippetContext) (h : Heap) (source : String) :
    Except Problem Unit × SnippetContext × Heap :=
  match compileSource "<string>" source false with
  | .error report => (.error report.problem, context, h)
  | .ok program =>
    let work : Script Evaluation.Request EffectReply (Except Problem Unit × Heap) := do
      let last ← (startMachine program context.names h).script stepBudget
      match last.ending with
      | .failed error =>
        let (problem, h) ← problemOf last.heap error
        return (.error problem, h)
      | _ => return (.ok (), last.heap)
    match work.run Effect.perform context.surroundings with
    | ((result, h), surroundings) => (result, { context with surroundings }, h)

/-- The names that a context has now, in order. -/
def namesNow (context : SnippetContext) (h : Heap) : List String :=
  ((h.names context.names).map (·.1)).mergeSort (fun a b => decide (a ≤ b))

end SnippetRunner.Sandbox
