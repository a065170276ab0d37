import SnippetRunner.Evaluation.ValueStep

/-!
# Ends of statements and blocks

What is done after a statement, when an error is raised, and when a block is left early. An error
and an early end pass the work that was put off, one piece after another, until something holds
them: a handler, a loop, the manager of a `with`, or the border of a block.
-/

namespace SnippetRunner.Evaluation

open SnippetRunner.Snippet

namespace Machine

/-- Ends a handler: the error that was handled before is current again, and the name of the
handled error is gone. -/
def endHandler (m : Machine) (name : Option String) (before : Option Nat) : Machine :=
  let m := { m with handling := before }
  match name with
  | none => m
  | some id =>
    match m.heap.deleteName m.here id with
    | .ok heap => { m with heap }
    | .error _ => m

/-- Goes on after a `finally` as it was before it. -/
def afterFinal (m : Machine) (completion : Completion) (before : Option Nat) : Machine :=
  let m := { m with handling := before }
  match completion with
  | .normal => m.done
  | .raised error => m.goOn (.raise error)
  | .left how => m.goOn (.leave how)

/-- What a function made that suspends itself. -/
def suspensionOf (m : Machine) (generator : Nat) : Suspension :=
  match m.heap.get? generator with
  | some (.generator kind _ _) => kind
  | _ => .generator

/-- Whether an error is the end of an asynchronous iterator. -/
def endsAsync (m : Machine) (error : Nat) : Bool :=
  m.heap.inherits (((m.heap.error? error).map (·.kind)).getD .none) (.type "StopAsyncIteration")

/-- Goes on after a statement with the work on top. -/
def doneAt (m : Machine) : Pending → Machine
  | .block [] => m.done
  | .block [s] => m.goOn (.exec s)
  | .block (s :: rest) => (m.push (.block rest)).goOn (.exec s)
  | .storeEach [] => m.done
  | .storeEach ((target, v) :: rest) => (m.push (.storeEach rest)).goOn (.store target v)
  | .hinted target hint bare span => m.takeHint target hint bare span
  | .startManaged awaits rest body span => m.manageAll awaits body span rest
  | .loop test body orElse span => (m.push (.loopTest test body orElse span)).test test span
  | .asyncOver iterator target body orElse span => m.asyncNext iterator target body orElse span
  | .loopOver iterator target body orElse span =>
    m.actThen .next [iterator] span (.loopItem iterator target body orElse span)
  | .handlers _ orElse | .groupHandlers _ orElse => m.run orElse
  | .handled name before => (m.endHandler name before).done
  | .groupHandled group name part => (m.endHandler name (some part)).tryGroup group
  | .final body => (m.push (.resumeAfter .normal m.handling)).run body
  | .resumeAfter completion before => m.afterFinal completion before
  | .withBody awaits manager span =>
    ((m.push (.exited .normal m.handling span)).waiting awaits span).act (.exit awaits none)
      [manager] span
  | .caller here handling => m.backTo here handling (.give .none)
  | .classBody name bases options cell scope decorators span here handling =>
    (m.backTo here handling .done).finishClass name bases options cell scope decorators span
  | .resumed generator here handling =>
    let m := (m.endGenerator generator).backTo here handling (.give (.tuple [.none, .none]))
    if m.suspensionOf generator == .asyncGenerator then m.raiseBare "StopAsyncIteration" else m
  | _ => m.done

/-- Goes on after a statement. -/
def doneStep (m : Machine) : Transition :=
  match m.work with
  | [] => .finished m
  | p :: work => .next ({ m with work }.doneAt p)

/-- The end of iteration must not leave a generator by itself: outside, it is an error of another
kind that follows from it. -/
def wrapEnd (m : Machine) (kind : Suspension) (error : Nat) : Machine :=
  let raised := ((m.heap.error? error).map (·.kind)).getD .none
  let fault :=
    if m.heap.endsIteration error then some s!"{kind.phrase} raised StopIteration"
    else if kind == .asyncGenerator && m.heap.inherits raised (.type "StopAsyncIteration") then
      some s!"{kind.phrase} raised StopAsyncIteration"
    else none
  match fault with
  | some message =>
    let (wrapped, heap) := m.heap.allocate (.error
      { kind := .type "RuntimeError", args := [.text message]
        cause := some error, context := some error, suppress := true })
    { m with heap, control := .raise wrapped }
  | none => m.goOn (.raise error)

/-- Raises an error at the work on top. -/
def raiseAt (m : Machine) (error : Nat) : Pending → Machine
  | .answering op args answers span => m.goOn (.perform op args (answers ++ [.raised error]) span)
  | .handlers handlers _ =>
    { m.push (.handled none m.handling) with handling := some error }.findHandler error handlers
  | .handled name before => (m.endHandler name before).goOn (.raise error)
  | .groupHandlers handlers _ =>
    { m with handling := some error }.tryGroup
      { error, left := some error, handlers, before := m.handling }
  | .groupTried group _ | .groupSplit group _ =>
    { m with handling := group.before, control := .raise error }
  | .groupJoined before => { m with handling := before, control := .raise error }
  | .groupHandled group name part =>
    (m.endHandler name (some part)).tryGroup { group with raised := error :: group.raised }
  | .final body =>
    { m.push (.resumeAfter (.raised error) m.handling) with handling := some error }.run body
  | .resumeAfter _ before => { m with handling := before, control := .raise error }
  | .withBody awaits manager span =>
    let m := m.push (.exited (.raised error) m.handling span)
    ({ m with handling := some error }.waiting awaits span).act (.exit awaits (some error))
      [manager] span
  | .asyncItem _ _ _ orElse _ =>
    if m.endsAsync error then m.run orElse else m.goOn (.raise error)
  | .asyncGather kind _ items span =>
    if m.endsAsync error then m.act (.gather kind) [.tuple items.reverse] span
    else m.goOn (.raise error)
  | .exited _ before _ => { m with handling := before, control := .raise error }
  | .delegating iterator span =>
    let kind := ((m.heap.error? error).map (·.kind)).getD .none
    if m.heap.inherits kind exitKind then
      m.actThen .close [iterator] span (.raising error span)
    else m.actThen (.throwInto error) [iterator] span (.delegated iterator span)
  | .caller here handling => m.backTo here handling (.raise error)
  | .classBody _ _ _ _ _ _ span here handling =>
    let m := m.backTo here handling (.raise error)
    { m with heap := m.through m.heap error span }
  | .resumed generator here handling =>
    ((m.endGenerator generator).backTo here handling .done).wrapEnd (m.suspensionOf generator) error
  | _ => m.goOn (.raise error)

/-- Raises an error. -/
def raiseStep (m : Machine) (error : Nat) : Transition :=
  match m.work with
  | [] => .failed error m
  | p :: work => .next ({ m with work }.raiseAt error p)

/-- Leaves the work on top. -/
def leaveAt (m : Machine) (how : Leave) (p : Pending) : Machine :=
  match how, p with
  | .returned v, .caller here handling => m.backTo here handling (.give v)
  | .returned v, .resumed generator here handling =>
    let m := (m.endGenerator generator).backTo here handling (.give (.tuple [.none, v]))
    if m.suspensionOf generator == .asyncGenerator then m.raiseBare "StopAsyncIteration" else m
  | .break_, .loop _ _ _ _ => m.done
  | .break_, .loopOver _ _ _ _ _ => m.done
  | .break_, .asyncOver _ _ _ _ _ => m.done
  | .continue_, .loop test body orElse span => m.doneAt (.loop test body orElse span)
  | .continue_, .loopOver iterator target body orElse span =>
    m.doneAt (.loopOver iterator target body orElse span)
  | .continue_, .asyncOver iterator target body orElse span =>
    m.doneAt (.asyncOver iterator target body orElse span)
  | how, .final body => (m.push (.resumeAfter (.left how) m.handling)).run body
  | how, .handled name before => (m.endHandler name before).goOn (.leave how)
  | how, .groupHandled group name _ => (m.endHandler name group.before).goOn (.leave how)
  | how, .resumeAfter _ before => { m with handling := before, control := .leave how }
  | how, .withBody awaits manager span =>
    ((m.push (.exited (.left how) m.handling span)).waiting awaits span).act (.exit awaits none)
      [manager] span
  | how, _ => m.goOn (.leave how)

/-- Leaves a block early. -/
def leaveStep (m : Machine) (how : Leave) : Transition :=
  match m.work with
  | [] => .finished m
  | p :: work => .next ({ m with work }.leaveAt how p)

/-- One step. -/
def step (m : Machine) : Transition :=
  match m.control with
  | .eval e => .next (m.evalStep e.span e.node)
  | .give v =>
    match m.work with
    | [] => .finished m
    | p :: work => .next ({ m with work }.giveTo v p)
  | .exec s => .next (m.execStep s.span s.node)
  | .done => m.doneStep
  | .store target v => .next (m.storeStep target v)
  | .fit p v => .next (m.patternStep v p.span p.node)
  | .perform op args answers span => m.performStep op args answers span
  | .raise error => m.raiseStep error
  | .leave how => m.leaveStep how

end Machine

end SnippetRunner.Evaluation
