import SnippetRunner.Evaluation.PatternStep

/-!
# Running statements

What the first step is for each kind of statement, and for storing into a target.
-/

namespace SnippetRunner.Evaluation

open SnippetRunner.Snippet

/-- How many targets there are, and the number of those before a starred one if there is one. -/
def targetCount (targets : List Expr) : Nat × Option Nat :=
  let before := targets.takeWhile fun e => ! (displayItem e).1
  if before.length = targets.length then (targets.length, none)
  else (targets.length - 1, some before.length)

namespace Machine

/-- Stores a value into a target. -/
def storeStep (m : Machine) (target : Expr) (v : Value) : Machine :=
  match target with
  | .mk span node =>
    match node with
    | .name id => m.assignName id v
    | .tuple targets | .list targets =>
      let (count, rest) := targetCount targets
      m.actThen (.unpack count rest) [v] span
        (.unpackInto (targets.map fun e => (displayItem e).2))
    | .attribute base name =>
      (m.push .discard).operate (.setAttribute (privateName m.here.owner name)) [v] [base]
        (nameSpan span name span)
    | .subscript base index => (m.push .discard).operate .setItem [v] [base, index] span
    | .starred e => m.goOn (.store e v)
    | _ => m.done

/-- Deletes a target. -/
def deleteStep (m : Machine) (target : Expr) : Machine :=
  match target with
  | .mk span node =>
    match node with
    | .name id =>
      match m.heap.deleteName m.here id with
      | .ok heap => { m with heap, control := .done }
      | .error unbound => m.failUnbound unbound span
    | .attribute base name =>
      (m.push .discard).operate (.deleteAttribute (privateName m.here.owner name)) [] [base]
        (nameSpan span name span)
    | .subscript base index => (m.push .discard).operate .deleteItem [] [base, index] span
    | .tuple targets | .list targets => m.run (targets.map fun e => .mk span (.delete [e]))
    | _ => m.done

/-- The function that a snippet imports by. -/
def importer (m : Machine) : Value :=
  (m.heap.named? m.here.known "__import__").getD .none

/-- Imports modules one after another. -/
def importAll (m : Machine) (span : Span) : List Alias → Machine
  | [] => m.done
  | a :: rest =>
    let whole := a.bound.isSome && a.name.toList.contains '.'
    m.actThen (.importModule a.name whole) [m.importer] span (.importNext a rest span)

/-- Takes members of a module one after another. -/
def importMembers (m : Machine) (module : Value) (span : Span) : List Alias → Machine
  | [] => m.done
  | a :: rest =>
    if a.name == "*" then
      let members := match module with
        | .ref address =>
          match m.heap.get? address with
          | some (.module _ names) => m.heap.names names
          | _ => []
        | _ => []
      let heap := members.foldl (fun h (id, v) =>
        if id.startsWith "_" then h else h.setName m.here id v) m.heap
      { m with heap, control := .done }
    else m.actThen (.member a.name) [module] span (.importMember module a rest span)

/-- Begins the managers of a `with` one after another, then its body. -/
def manageAll (m : Machine) (awaits : Bool) (body : List Stmt) (span : Span) :
    List (Expr × Option Expr) → Machine
  | [] => m.run body
  | (manager, target) :: rest => m.evalThen manager (.manage awaits target rest body span)

/-- Begins an augmented assignment. -/
def augmentStep (m : Machine) (target : Expr) (op : BinaryOp) (value : Expr) (span : Span) :
    Machine :=
  match target with
  | .mk place node =>
    match node with
    | .name id =>
      match m.heap.lookup m.here id with
      | .ok current =>
        (m.push (.assignTo [target])).operate (.augmented op) [current] [value] span
      | .error unbound => m.failUnbound unbound place
    | .attribute base name =>
      let own := privateName m.here.owner name
      let place := nameSpan place name place
      (m.push (.augmentBase (some own) op value span place)).operate (.tuple []) [] [base] place
    | .subscript base index =>
      (m.push (.augmentBase none op value span place)).operate (.tuple []) [] [base, index] place
    | _ => m.done

/-- Whether the current block is a program or a class, whose type hints are taken. -/
def takesHints (m : Machine) : Bool :=
  match m.here.scope.bind m.heap.scope? with
  | some s => s.kind == .class_
  | none => true

/-- Takes the type hint of a target: that of a bare name is kept. -/
def takeHint (m : Machine) (target hint : Expr) (bare : Bool) (span : Span) : Machine :=
  if ! m.takesHints then m.done
  else
    match target with
    | .mk _ (.name id) => m.evalThen hint (if bare then .keepHint id span else .discard)
    | _ => m.evalThen hint .discard

/-- Keeps the type hint of a name of a program or a class. -/
def keepHint (m : Machine) (id : String) (hint : Value) (span : Span) : Machine :=
  match m.heap.lookup m.here "__annotations__" with
  | .ok hints =>
    (m.push .discard).act .setItem [hint, hints, .text (privateName m.here.owner id)] span
  | .error unbound => m.failUnbound unbound span

/-- The first step of a statement. -/
def execStep (m : Machine) (span : Span) : StmtNode → Machine
  | .expression e => m.evalThen e .discard
  | .assign targets value => m.evalThen value (.assignTo targets)
  | .annotated target hint (some value) bare =>
    m.evalThen value (.annotate target hint bare span)
  | .annotated target hint none bare =>
    let m := m.push (.hinted target hint bare span)
    match target with
    | .mk _ (.attribute base _) => m.evalThen base .discard
    | .mk _ (.subscript base index) => (m.push .discard).operate (.tuple []) [] [base, index] span
    | _ => m.done
  | .augmented target op value => m.augmentStep target op value span
  | .return_ value => m.evalThen (orNone span value) .returning
  | .raise none _ =>
    match m.handling with
    | some error => m.goOn (.raise error)
    | none => m.act .raise [] span
  | .raise (some e) none => m.operate .raise [] [e] span
  | .raise (some e) (some cause) => m.operate .raiseFrom [] [e, cause] span
  | .assert test message => (m.push (.asserting message (testPlace span test))).test test span
  | .delete [] => m.done
  | .delete [target] => m.deleteStep target
  | .delete targets => m.run (targets.map fun e => .mk span (.delete [e]))
  | .pass => m.done
  | .break_ => m.goOn (.leave .break_)
  | .continue_ => m.goOn (.leave .continue_)
  | .global _ => m.done
  | .nonlocal _ => m.done
  | .import_ names => m.importAll span names
  | .importFrom module names level =>
    m.actThen (.importMember module level (names.map (·.name))) [m.importer] span
      (.importMembers names span)
  | .if_ test body orElse => (m.push (.branch body orElse)).test test span
  | .while_ test body orElse => (m.push (.loopTest test body orElse span)).test test span
  | .for_ target iterable body orElse =>
    (m.push (.loopStart target body orElse span)).operate .iterate [] [iterable] span
  | .tryStar body handlers orElse final =>
    let m := if final.isEmpty then m else m.push (.final final)
    (m.push (.groupHandlers handlers orElse)).run body
  | .try_ body handlers orElse final =>
    let m := if final.isEmpty then m else m.push (.final final)
    let m := if handlers.isEmpty then m else m.push (.handlers handlers orElse)
    m.run body
  | .asyncFor target (.mk place (.name ".0")) body orElse =>
    -- a comprehension has its iterator already
    m.evalThen (.mk place (.name ".0")) (.asyncStart target body orElse span)
  | .asyncFor target iterable body orElse =>
    (m.push (.asyncStart target body orElse span)).operate .asyncIterate [] [iterable] span
  | .with_ items body => m.manageAll false body span items
  | .asyncWith items body => m.manageAll true body span items
  | .match_ subject cases => m.evalThen subject (.choosing cases)
  | .function awaits name params returns body decorators =>
    let line := ((decorators.head?.map Expr.span).getD span).line
    (m.push (.define awaits name params returns body decorators line)).operate (.tuple []) []
      (decorators ++ (defaultsOf params ++ hintsOf params returns).map (·.2)) span
  | .class_ name args body decorators =>
    (m.push (.defineClass name args body decorators span)).operate (.tuple []) [] decorators span

end Machine

end SnippetRunner.Evaluation
