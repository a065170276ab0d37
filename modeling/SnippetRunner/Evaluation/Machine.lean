import SnippetRunner.Evaluation.Cost
import SnippetRunner.Evaluation.Names
import SnippetRunner.Evaluation.Perform
import SnippetRunner.Sandbox.Names
import SnippetRunner.Snippet.Program

/-!
# The machine

What is being done, what was put off until later, and where. A step does one small thing. It
either leads to the next state, asks the surroundings for something, or is the last one.
-/

namespace SnippetRunner.Evaluation

open SnippetRunner.Snippet

/-- A state of a running snippet. -/
structure Machine where
  heap : Heap
  control : Control
  work : List Pending := []
  here : Activation
  /-- The error that is being handled. -/
  handling : Option Nat := none
  /-- How many blocks are being run inside each other. -/
  depth : Nat
  /-- What operations on much data have cost so far, in steps. -/
  effort : Nat := 0

/-- What a step leads to. -/
inductive Transition where
  | next (m : Machine)
  /-- The surroundings are asked; the machine waits for the answer. -/
  | request (r : Request) (m : Machine)
  | finished (m : Machine)
  | failed (error : Nat) (m : Machine)
  /-- The machine is in an operation that does not end in time. -/
  | endless (m : Machine)

namespace Machine

/-- Goes on with something. -/
def goOn (m : Machine) (c : Control) : Machine := { m with control := c }

/-- Goes on with a value. -/
def give (m : Machine) (v : Value) : Machine := m.goOn (.give v)

/-- Goes on after a statement. -/
def done (m : Machine) : Machine := m.goOn .done

/-- Puts work off. -/
def push (m : Machine) (p : Pending) : Machine := { m with work := p :: m.work }

/-- Evaluates an expression and goes on with its value. -/
def evalThen (m : Machine) (e : Expr) (p : Pending) : Machine := (m.push p).goOn (.eval e)

/-- Performs an operation for a place in the source. -/
def act (m : Machine) (op : Operation) (args : List Value) (span : Span) : Machine :=
  m.goOn (.perform op args [] (some span))

/-- Performs an operation and goes on with its value. -/
def actThen (m : Machine) (op : Operation) (args : List Value) (span : Span) (p : Pending) :
    Machine :=
  (m.push p).act op args span

/-- Runs statements. -/
def run (m : Machine) (body : List Stmt) : Machine := (m.push (.block body)).done

/-- An error with the one that is being handled as its context. The chain of contexts is cut
where it would lead back to the error. -/
def withContext (h : Heap) (error : Nat) (handling : Option Nat) : Heap :=
  match handling with
  | none => h
  | some other =>
    if other = error then h
    else
      let h := cut h h.objects.size other
      h.mapError error fun e => { e with context := some other }
where
  /-- Cuts the chain of contexts before the error. -/
  cut (h : Heap) : Nat → Nat → Heap
    | 0, _ => h
    | fuel + 1, address =>
      match (h.error? address).bind (·.context) with
      | none => h
      | some next =>
        if next = error then h.mapError address fun e => { e with context := none }
        else cut h fuel next

/-- An error that has gone through a place of the current block. One that belongs to no file leaves
no trace. -/
def through (m : Machine) (h : Heap) (error : Nat) (span : Span) : Heap :=
  h.mapError error fun e =>
    { e with
      frames := if m.here.file.isEmpty then e.frames else ⟨m.here.file, m.here.name, span⟩ :: e.frames
      scopes := m.here.scope.toList ++ e.scopes }

/-- Raises a new error without a place. -/
def failBefore (m : Machine) (p : Problem) : Machine :=
  let (error, h) := m.heap.allocate (.error { kind := .type p.kind, args := [.text p.message] })
  { m with heap := withContext h error m.handling, control := .raise error }

/-- Raises a new error at a place; it may tell more than its message. -/
def fail (m : Machine) (p : Problem) (span : Span) (details : Table := []) : Machine :=
  let (error, h) := m.heap.allocate
    (.error { kind := .type p.kind, args := [.text p.message], details })
  { m with heap := m.through (withContext h error m.handling) error span, control := .raise error }

/-- Raises the error for a name without a value. -/
def failUnbound (m : Machine) (unbound : Unbound) (span : Span) : Machine :=
  m.fail unbound.problem span unbound.details

/-- Evaluates operands one after another and performs an operation on all of them. -/
def operate (m : Machine) (op : Operation) (done : List Value) (rest : List Expr) (span : Span) :
    Machine :=
  match rest with
  | [] => m.act op done.reverse span
  | e :: rest => m.evalThen e (.operands op done rest span)

/-- Sets a name and goes on after the statement. -/
def assignName (m : Machine) (id : String) (v : Value) : Machine :=
  { m with heap := m.heap.setName m.here id v, control := .done }

/-- Begins a block inside the current one with some work, unless there are too many. -/
def enter (m : Machine) (border : Pending) (here : Activation) (work : List Pending)
    (c : Control) : Machine :=
  if depthLimit ≤ m.depth then
    m.failBefore ⟨"RecursionError", "maximum recursion depth exceeded"⟩
  else { m with work := work ++ border :: m.work, here, control := c, depth := m.depth + 1 }

/-- Goes back to the block around. -/
def backTo (m : Machine) (here : Activation) (handling : Option Nat) (c : Control) : Machine :=
  { m with here, handling, control := c, depth := m.depth - 1 }

/-! ## Generators -/

/-- Raises a new error that says nothing but its kind. -/
def raiseBare (m : Machine) (kind : String) : Machine :=
  let (error, heap) := m.heap.allocate (.error { kind := .type kind, args := [] })
  { m with heap := withContext heap error m.handling, control := .raise error }

/-- Whether an error is the one by which a generator is ended. -/
def isExit (m : Machine) (error : Nat) : Bool :=
  m.heap.inherits (((m.heap.error? error).map (·.kind)).getD .none) (.type "GeneratorExit")

/-- Whether a generator waits for what an iterator hands out in its place. -/
def delegates : List Pending → Bool
  | .delegating _ _ :: _ => true
  | _ => false

/-- Lets a generator go on. One that is at its end has nothing more; a value that is sent to it is
lost, and an error that is raised in it is raised here. -/
def resume (m : Machine) (generator : Nat) (how : Resumption) : Machine :=
  match m.heap.get? generator with
  | some (.generator kind name (.waiting activation work place started handling)) =>
    let enter (m : Machine) (c : Control) : Machine :=
      m.enter (.resumed generator m.here m.handling) activation work c
    if depthLimit ≤ m.depth then enter m .done
    else
      let running := { m with heap := m.heap.set generator (.generator kind name .running) }
      let own (m : Machine) := { m with handling := handling.orElse fun _ => m.handling }
      match how with
      | .send v => own (enter running (if started then .give v else .done))
      | .throw error =>
        let m := own (enter running (.raise error))
        let heap := withContext m.heap error handling
        { m with heap := if delegates work then heap else m.through heap error place }
  | some (.generator kind _ .running) =>
    m.failBefore ⟨"ValueError", s!"{kind.phrase} already executing"⟩
  | some (.generator .asyncGenerator _ .finished) =>
    match how with
    | .send _ => m.raiseBare "StopAsyncIteration"
    | .throw error => m.goOn (.raise error)
  | some (.generator .coroutine _ .finished) =>
    match how with
    | .throw error =>
      if m.isExit error then m.goOn (.raise error)
      else m.failBefore ⟨"RuntimeError", "cannot reuse already awaited coroutine"⟩
    | .send _ => m.failBefore ⟨"RuntimeError", "cannot reuse already awaited coroutine"⟩
  | _ =>
    match how with
    | .send _ => m.give (.tuple [.none, .none])
    | .throw error => m.goOn (.raise error)

/-! ## Operations and their questions -/

/-- The shapes of arguments that are passed as they are. -/
def plainShapes (args : List Value) (keywords : Table) : List ArgumentShape :=
  args.map (fun _ => .positional) ++ keywords.map (fun (id, _) => .keyword id)

/-- Loads a module of which the text is known. It has the names of the host, and belongs to no
file. -/
def load (m : Machine) (name text : String) : Machine :=
  let (known, heap) := m.heap.allocate (.names Sandbox.hostTable)
  let (names, heap) := heap.allocate
    (.names (("__builtins__", .ref known) :: moduleMembers name))
  let (address, heap) := heap.allocate (.module name names)
  let heap := { heap with modules := heap.modules ++ [(name, address)] }
  let body := (readProgram text).toOption.getD []
  { m with heap }.enter (.caller m.here m.handling)
    { name := "<module>", qualifier := "", file := "", scope := none, globals := names, known }
    [.block body] .done

/-- Goes after the answer to a question. -/
def answer (m : Machine) (q : Question) : Transition :=
  match q with
  | .call callee args keywords =>
    .next (m.goOn (.perform (.call (plainShapes args keywords))
      (callee :: args ++ keywords.map (·.2)) [] none))
  | .enter f names =>
    let (scope, heap) := m.heap.allocate (.scope (f.scope names))
    .next ({ m with heap }.enter (.caller m.here m.handling) (f.activation scope)
      [.block f.body] .done)
  | .resume generator how => .next (m.resume generator how)
  | .collect iterator =>
    .next ((m.push (.collecting iterator [])).goOn (.perform .next [iterator] [] none))
  | .walk visitor iterator state =>
    .next ((m.push (.walking visitor iterator state)).goOn (.perform .next [iterator] [] none))
  | .allocate object =>
    let (address, heap) := m.heap.allocate object
    .next { m with heap, control := .give (.ref address) }
  | .load name text =>
    match m.work with
    | .answering op args answers span :: work =>
      .next ({ m with work := .interrupted (.perform op args answers span) :: work }.load name text)
    | _ => .next m
  | .request r => .request r { m with heap := { m.heap with held := r.held ++ m.heap.held } }

/-- A number that is not one gets a mark of its own when an operation makes it. -/
def marked (h : Heap) (v : Value) : Value × Heap :=
  match v with
  | .float x =>
    if x.isNaN then
      let (address, h) := h.allocate .plain
      (.nan address, h)
    else (v, h)
  | v => (v, h)

/-- Performs an operation with the answers so far. -/
def performStep (m : Machine) (op : Operation) (args : List Value) (answers : List Answer)
    (span : Option Span) : Transition :=
  let heap := m.heap
  let m := { m with heap := {} }
  match (perform op args).run { heap, answers, depth := m.depth } with
  | .ok v s =>
    let effort := m.effort + Cost.ofOperation s.heap op args v
    let (v, heap) := marked s.heap v
    .next { m with heap, control := .give v, effort }
  | .error .endless s => .endless { m with heap := s.heap }
  | .error (.fail error fresh) s =>
    let h := if fresh then withContext s.heap error m.handling else s.heap
    let h := match span with
      | some span => m.through h error span
      | none => h
    .next { m with heap := h, control := .raise error, effort := m.effort + Cost.ofFailing }
  | .error (.ask q) s =>
    answer { m with
      heap := s.marked.getD s.heap
      work := .answering op args answers span :: m.work } q

/-- Gives the surroundings' answer to a machine that waits for it. -/
def reply (m : Machine) (r : EffectReply) : Machine :=
  match m.work with
  | .answering op args answers span :: work =>
    { m with work, control := .perform op args (answers ++ [.effect r]) span }
  | _ => m.give .none

end Machine

end SnippetRunner.Evaluation
