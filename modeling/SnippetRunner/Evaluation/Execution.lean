import SnippetRunner.Evaluation.BlockStep
import SnippetRunner.Evaluation.Reach
import SnippetRunner.Run.Effect
import SnippetRunner.Timer.Agenda

/-!
# Running to the end

A machine that is stepped until it ends is a script over its requests. The number of steps is
bounded, and so is what they cost; a machine that needs more counts as one that never ends.

An error is reported with all that it is chained to, each one once. A class of the snippet may say
itself how its errors are shown, so their texts are found by running it.
-/

namespace SnippetRunner.Evaluation

open SnippetRunner.Snippet

/-- How many steps a snippet may take before it counts as one that never ends. -/
def stepBudget : Nat := 12000000

/-- How a machine ended; the error of a failed one is at an address of the heap. -/
structure End where
  ending : Timer.Ending Nat
  /-- The value it ended with, if it evaluates an expression. -/
  value : Value
  heap : Heap

namespace Machine

/-- The value that a machine ends with. -/
def result (m : Machine) : Value :=
  match m.control with
  | .give v => v
  | _ => .none

/-- Steps a machine until it ends. -/
def script : Nat → Machine → Script Request EffectReply End
  | 0, m => .stop ⟨.endless, .none, m.heap⟩
  | fuel + 1, m =>
    if stepBudget < m.effort then .stop ⟨.endless, .none, m.heap⟩
    else match m.releaseStep.step with
    | .next m => m.script fuel
    | .request r m => .act r fun reply => (m.reply reply).script fuel
    | .finished m => .stop ⟨.done, m.result, m.heap⟩
    | .failed error m => .stop ⟨.failed error, .none, m.heap⟩
    | .endless m => .stop ⟨.endless, .none, m.heap⟩

end Machine

/-! ## Starting -/

/-- How many blocks surround a program. -/
def programDepth : Nat := 5

/-- How many blocks surround a callback. -/
def callbackDepth : Nat := 7

/-- A name that is set unless it has a value. -/
def setDefault (h : Heap) (globals : Nat) (id : String) (o : Object) : Heap :=
  if (h.names globals).has id then h
  else
    let (address, h) := h.allocate o
    h.mapNames globals (·.put id (.ref address))

/-- A machine at the start of a program. -/
def Machine.ofProgram (h : Heap) (globals : Nat) (file : String) (program : List Stmt) : Machine :=
  let h := if stmtsHint program then setDefault h globals "__annotations__" (.mapping {}) else h
  let h := match leadingText? program with
    | some s => h.mapNames globals (·.put "__doc__" (.text s))
    | none => h
  { heap := { h with held := .ref globals :: h.held }, control := .done, work := [.block program]
    here := { name := "<module>", qualifier := "", file, scope := none, globals
              known := h.knownAt globals globals }
    depth := programDepth }

/-- A machine that performs one operation outside of any program. -/
def Machine.ofOperation (h : Heap) (op : Operation) (args : List Value) : Machine :=
  { heap := h, control := .perform op args [] none
    here := { name := "", qualifier := "", file := "", scope := none, globals := h.objects.size
              known := h.objects.size }
    depth := callbackDepth }

/-- A machine that calls the function of a timer. -/
def Machine.ofCallback (h : Heap) (callback : Callback) : Machine :=
  Machine.ofOperation h (.call (callback.args.map fun _ => .positional))
    (callback.function :: callback.args)

/-- An error of a chain, and the errors that are shown with it, by their numbers in the chain. -/
structure Link where
  error : Nat
  cause : Option Nat
  context : Option Nat
  members : List Nat
  deriving Repr, DecidableEq

/-- Errors by their numbers; the first one has the number `next`. -/
def numbered (next : Nat) (errors : List Nat) : List (Nat × Nat) :=
  errors.zipIdx.map fun (error, i) => (next + i, error)

/-- The numbered errors that wait for their turn, first one first, lead to their causes and
contexts, of which no one is met twice, and to the errors in a group. -/
def Heap.linksFrom (h : Heap) : Nat → List (Nat × Nat) → List Nat → Nat → List (Nat × Link)
  | 0, _, _, _ => []
  | _ + 1, [], _, _ => []
  | fuel + 1, (number, error) :: waiting, seen, next =>
    match h.error? error with
    | none => h.linksFrom fuel waiting seen next
    | some e =>
      let fresh (seen : List Nat) (other : Option Nat) : Option Nat :=
        other.filter fun address => ! seen.contains address
      let cause := fresh seen e.cause
      let seen := cause.toList ++ seen
      let context := fresh seen e.context
      let members := (h.groupMembers? error).getD []
      let seen := members ++ context.toList ++ seen
      let causes := numbered next cause.toList
      let next := next + causes.length
      let contexts := numbered next context.toList
      let next := next + contexts.length
      let inner := numbered next members
      let link : Link :=
        ⟨error, causes.head?.map (·.1), contexts.head?.map (·.1), inner.map (·.1)⟩
      (number, link) :: h.linksFrom fuel (inner.reverse ++ contexts ++ causes ++ waiting) seen
        (next + inner.length)

/-- The most errors of a chain that are looked at. -/
def chainLimit : Nat := 100000

/-- All errors that an error is chained to, the error itself first. -/
def Heap.links (h : Heap) (error : Nat) : List (Nat × Link) :=
  h.linksFrom chainLimit [(0, error)] [error] 1

/-- What an error shows of itself. -/
structure Shown where
  error : Nat
  /-- Its text, if it can be had. -/
  text : Option String
  notes : Fault.Notes
  deriving Repr, DecidableEq

/-- The name of a kind of error in a report: that of another program's class with the program's
name before it. -/
def Heap.reportedKind (h : Heap) (kind : Value) : String :=
  match kind with
  | .type name => Fault.displayName name
  | _ =>
    match h.class? kind with
    | none => h.kindName kind
    | some c =>
      match c.attributes.get? "__module__" with
      | some (.text module) =>
        if module == "__main__" || module == "builtins" then c.qualname
        else module ++ "." ++ c.qualname
      | _ => c.qualname

/-- The report of an error of a chain by its number, with what the errors show of themselves. -/
def Heap.reportOf (h : Heap) (links : Array Link) (shown : List Shown) :
    Nat → Nat → Fault.Report
  | 0, _ => { headline := .plain "" none }
  | fuel + 1, number =>
    match links[number]? with
    | none => { headline := .plain "" none }
    | some link =>
      let e := (h.error? link.error).getD { kind := .none, args := [] }
      let own := shown.find? (·.error == link.error)
      { headline := .plain (h.reportedKind e.kind) (own.bind (·.text))
        notes := (own.map (·.notes)).getD {}
        frames := e.frames
        suppress := e.suppress
        members := link.members.map (h.reportOf links shown fuel)
        cause := link.cause.map (h.reportOf links shown fuel)
        context := link.context.map (h.reportOf links shown fuel) }

/-- Links in the order of their numbers. -/
def linksInOrder (links : List (Nat × Link)) : Array Link :=
  ((links.mergeSort fun a b => a.1 ≤ b.1).map (·.2)).toArray

/-- The notes that an operation has found. -/
def notesOf : Value → Fault.Notes
  | .tuple [.tuple lines, rest] =>
    { lines := lines.filterMap textOnly, rest := textOnly rest }
  | _ => {}
where
  /-- A text, and nothing else. -/
  textOnly : Value → Option String
    | .text s => some s
    | _ => none

/-- Finds what errors show of themselves. -/
def shownOf (h : Heap) : List Nat → Script Request EffectReply (List Shown × Heap)
  | [] => .stop ([], h)
  | error :: rest => do
    let told ← (Machine.ofOperation h .text [.ref error]).script stepBudget
    let noted ← (Machine.ofOperation told.heap .notes [.ref error]).script stepBudget
    let text := match told.ending, told.value with
      | .done, .text s => some s
      | _, _ => none
    let (shown, h) ← shownOf noted.heap rest
    return ({ error, text, notes := notesOf noted.value } :: shown, h)

/-- The report of an error. -/
def diagnose (h : Heap) (error : Nat) : Script Request EffectReply (Fault.Report × Heap) := do
  let links := h.links error
  let (shown, after) ← shownOf h ((links.map (·.2.error)).eraseDups)
  return (after.reportOf (linksInOrder links) shown (links.length + 1) 0, after)

/-- Runs a machine to its end and reports its error. -/
def Machine.runReporting (m : Machine) :
    Script Request EffectReply (Timer.Ending Fault.Report × Heap) := do
  let last ← m.script stepBudget
  match last.ending with
  | .done => return (.done, last.heap)
  | .late => return (.late, last.heap)
  | .endless => return (.endless, last.heap)
  | .failed error =>
    let (report, h) ← diagnose last.heap error
    return (.failed report, h)

end SnippetRunner.Evaluation
