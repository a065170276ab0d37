import SnippetRunner.Evaluation.StatementStep

/-!
# Going on with a value

What is done once a value is there that some work was waiting for. Work that asks whether a value
counts as true puts itself back when the value's class has to be asked, and then waits for the
plain answer.
-/

namespace SnippetRunner.Evaluation

open SnippetRunner.Snippet

/-- The work up to the border of the nearest generator, and what lies beyond it. -/
def splitAtGenerator? : List Pending →
    Option (List Pending × Nat × Activation × Option Nat × List Pending)
  | [] => none
  | .resumed generator here handling :: rest => some ([], generator, here, handling, rest)
  | p :: rest => (splitAtGenerator? rest).map fun (saved, beyond) => (p :: saved, beyond)

/-- Whether work is the rest of a statement that still has to do something when it is left. -/
def hasEnd : Pending → Bool
  | .handlers _ _ | .groupHandlers _ _ | .final _ | .withBody _ _ _ => true
  | _ => false

/-- Whether work belongs to the handling of an error. -/
def handlesError : Pending → Bool
  | .handled _ _ | .groupHandled _ _ _ | .resumeAfter (.raised _) _ => true
  | _ => false

/-- The items of a tuple. -/
def tupleItems : Value → List Value
  | .tuple items => items
  | _ => []

/-- Whether a value is the one that stands for truth. -/
def isTrue : Value → Bool
  | .bool b => b
  | _ => false

namespace Machine

/-- Goes on with the truth of a value, or asks the value's class and comes back to `again`. -/
def withTruth (m : Machine) (v : Value) (span : Option Span) (again : Pending)
    (go : Bool → Machine) : Machine :=
  match m.heap.truth? v with
  | some b => go b
  | none => (m.push again).goOn (.perform .truth [v] [] span)

/-- Hands out a value of the generator that runs, which waits from then on; `answer` is what whoever
let it go on gets. -/
def suspend (m : Machine) (answer : Value) (span : Span) : Machine :=
  match splitAtGenerator? m.work with
  | none => m.give .none
  | some (saved, generator, here, handling, rest) =>
    let heap := match m.heap.get? generator with
      | some (.generator kind name _) =>
        let own := if saved.any handlesError then m.handling else none
        let heap := m.heap.set generator (.generator kind name (.waiting m.here saved span true own))
        if saved.any hasEnd && ! heap.unfinished.contains generator then
          { heap with unfinished := generator :: heap.unfinished }
        else heap
      | _ => m.heap
    { m with heap, work := rest }.backTo here handling (.give answer)

/-- Hands out an item of the generator that runs. That of an asynchronous one is what the step ends
with that was waited for. -/
def handOut (m : Machine) (v : Value) (span : Span) : Machine :=
  let kind := match splitAtGenerator? m.work with
    | some (_, generator, _) =>
      match m.heap.get? generator with
      | some (.generator kind _ _) => kind
      | _ => .generator
    | none => .generator
  m.suspend (if kind == .asyncGenerator then .tuple [.none, v] else .tuple [v]) span

/-- Waits for the next item of a loop. -/
def asyncNext (m : Machine) (iterator : Value) (target : Expr) (body orElse : List Stmt)
    (span : Span) : Machine :=
  ((m.push (.asyncItem iterator target body orElse span)).push (.delegateTo span)).act .asyncNext
    [iterator] span

/-- Waits for what an operation gives, if that is asked for. -/
def waiting (m : Machine) (awaits : Bool) (span : Span) : Machine :=
  if awaits then m.push (.delegateTo span) else m

/-- Ends the generator at an address. -/
def endGenerator (m : Machine) (generator : Nat) : Machine :=
  match m.heap.get? generator with
  | some (.generator kind name _) =>
    { m with heap := m.heap.set generator (.generator kind name .finished) }
  | _ => m

/-- Starts a handler for an error. -/
def startHandler (m : Machine) (error : Nat) (name : Option String) (body : List Stmt) :
    Machine :=
  match name with
  | none => m.run body
  | some id =>
    let work := match m.work with
      | .handled _ before :: work => .handled name before :: work
      | work => work
    { m with work, heap := m.heap.setName m.here id (.ref error) }.run body

/-- Looks for a handler of an error; without one it is raised again. -/
def findHandler (m : Machine) (error : Nat) : List Handler → Machine
  | [] => m.goOn (.raise error)
  | .mk _ none name body :: _ => m.startHandler error name body
  | .mk span (some kind) name body :: rest =>
    m.evalThen kind (.matching error (.mk span (some kind) name body) rest)

/-- Tries the next handler of groups on the part of an error that is left; after the last one, what
is left is raised together with what was raised meanwhile. -/
def tryGroup (m : Machine) (g : GroupHandling) : Machine :=
  match g.handlers with
  | [] =>
    (m.push (.groupJoined g.before)).goOn
      (.perform (.joinGroup g.error (g.raised.reverse ++ g.left.toList)) [] [] none)
  | .mk span kind name body :: rest =>
    (m.push (.groupTried { g with handlers := rest } (.mk span kind name body))).goOn
      (kind.elim (.give .none) .eval)

/-- Runs a handler of groups for the part of an error that it takes. -/
def startGroupHandler (m : Machine) (g : GroupHandling) (name : Option String) (body : List Stmt)
    (part : Nat) : Machine :=
  let heap := match name with
    | some id => m.heap.setName m.here id (.ref part)
    | none => m.heap
  ({ m with heap, handling := some part }.push (.groupHandled g name part)).run body

/-- Goes on with a conjunction or a disjunction after a value whose truth is known. -/
def booleanNext (m : Machine) (conjunction : Bool) (v : Value) (rest : List Expr) (span : Span)
    (truth : Bool) : Machine :=
  match rest with
  | e :: rest =>
    if truth == conjunction then m.evalThen e (.boolean conjunction rest span) else m.give v
  | [] => m.give v

/-- Goes on with the next item of a loop, or after its last one. -/
def loopNext (m : Machine) (iterator item : Value) (target : Expr) (body orElse : List Stmt)
    (span : Span) : Machine :=
  match item with
  | .tuple [v] =>
    ((m.push (.loopOver iterator target body orElse span)).push (.block body)).goOn
      (.store target v)
  | _ => m.run orElse

/-- Raises the error of a failed assertion. -/
def failAssertion (m : Machine) (message : Option Expr) (span : Span) : Machine :=
  (m.push .discard).operate .assertion [] message.toList span

/-- Ends the work of a manager: its answer may keep an error back. -/
def finishManaged (m : Machine) (completion : Completion) (before : Option Nat) (span : Span)
    (v : Value) : Machine :=
  match completion with
  | .normal => { m with handling := before }.done
  | .left how => { m with handling := before }.goOn (.leave how)
  | .raised error =>
    m.withTruth v span (.exited completion before span) fun b =>
      let m := { m with handling := before }
      if b then m.done else m.goOn (.raise error)

/-- Goes on with a value for the work on top. -/
def giveTo (m : Machine) (v : Value) : Pending → Machine
  | .operands op done rest span => m.operate op (v :: done) rest span
  | .answering op args answers span => m.goOn (.perform op args (answers ++ [.value v]) span)
  | .collecting iterator items =>
    match v with
    | .tuple [item] =>
      (m.push (.collecting iterator (item :: items))).goOn (.perform .next [iterator] [] none)
    | _ => m.give (.tuple items.reverse)
  | .walking visitor iterator state =>
    match v with
    | .tuple [item] =>
      (m.push (.visited visitor iterator)).goOn (.perform (.visit visitor) [state, item] [] none)
    | _ => m.give state
  | .visited visitor iterator =>
    match v with
    | .tuple [_, state] =>
      (m.push (.walking visitor iterator state)).goOn (.perform .next [iterator] [] none)
    | .tuple [result] => m.give result
    | _ => m.give .none
  | .discard => m.done
  | .assignTo targets => (m.push (.storeEach (targets.map fun e => (e, v)))).done
  | .annotate target hint bare span => (m.push (.hinted target hint bare span)).goOn (.store target v)
  | .keepHint id span => m.keepHint id v span
  | .unpackInto targets => (m.push (.storeEach (targets.zip (tupleItems v)))).done
  | .augmentBase member op value span place =>
    let (load, store) := match member with
      | some name => (Operation.attribute name, Operation.setAttribute name)
      | none => (.item, .setItem)
    m.actThen load (tupleItems v) place (.augmentLoaded store (tupleItems v) op value span place)
  | .augmentLoaded store base op value span place =>
    (m.push (.storeBack store base place)).operate (.augmented op) [v] [value] span
  | .storeBack op base span => (m.push .discard).act op (v :: base) span
  | .boolean conjunction rest span =>
    if rest.isEmpty then m.give v
    else m.withTruth v span (.booleanKnown conjunction v rest span)
      (m.booleanNext conjunction v rest span)
  | .booleanKnown conjunction known rest span =>
    m.booleanNext conjunction known rest span (isTrue v)
  | .truth span => m.withTruth v span (.truth span) fun b => m.give (.bool b)
  | .negate => m.give (.bool (! isTrue v))
  | .testMore conjunction rest span =>
    if isTrue v == conjunction then m.testAll conjunction span rest else m.give v
  | .testChosen yes no spanYes spanNo =>
    if isTrue v then m.test yes spanYes else m.test no spanNo
  | .compareNext (op, e) rest span => m.evalThen e (.compareWith op v rest span)
  | .compareWith op left [] span => m.act (.compare op) [left, v] span
  | .compareWith op left rest span =>
    m.actThen (.compare op) [left, v] span (.compareMore v rest span)
  | .compareMore left rest span =>
    m.withTruth v span (.compareMore left rest span) fun b =>
      match b, rest with
      | true, (op, e) :: rest => m.evalThen e (.compareWith op left rest span)
      | _, _ => m.give v
  | .choose yes no => m.goOn (.eval (if isTrue v then yes else no))
  | .nameIt id => { m with heap := m.heap.setName m.here id v, control := .give v }
  | .pieces done rest span => m.join (v :: done) span rest
  | .pieceValue conversion [] span => m.act (.format conversion) [v, .text ""] span
  | .pieceValue conversion format span =>
    (m.push (.pieceFormat conversion v span)).join [] span format
  | .pieceFormat conversion known span => m.act (.format conversion) [known, v] span
  | .comprehend kind awaits body names span => m.comprehend kind awaits body names span v
  | .asyncGather kind generator items span => m.gatherNext kind generator (v :: items) span
  | .yielding span => m.handOut v span
  | .delegateTo span => m.actThen .next [v] span (.delegated v span)
  | .delegating iterator span => m.actThen .send [iterator, v] span (.delegated iterator span)
  | .delegated iterator span =>
    match v with
    | .tuple [item] => (m.push (.delegating iterator span)).suspend (.tuple [item]) span
    | .tuple [_, result] => m.give result
    | _ => m.give .none
  | .raising error span => { m with heap := m.through m.heap error span }.goOn (.raise error)
  | .interrupted c => m.goOn c
  | .returning => m.goOn (.leave (.returned v))
  | .branch body orElse => m.run (if isTrue v then body else orElse)
  | .loopTest test body orElse span =>
    if isTrue v then (m.push (.loop test body orElse span)).run body else m.run orElse
  | .loopStart target body orElse span =>
    m.actThen .next [v] span (.loopItem v target body orElse span)
  | .loopItem iterator target body orElse span => m.loopNext iterator v target body orElse span
  | .asyncStart target body orElse span => m.asyncNext v target body orElse span
  | .asyncItem iterator target body orElse span =>
    ((m.push (.asyncOver iterator target body orElse span)).push (.block body)).goOn
      (.store target v)
  | .asserting message span =>
    if isTrue v then m.done else m.failAssertion message span
  | .matching error (.mk span kind name body) rest =>
    m.actThen (.catches error) [v] span (.matched error (.mk span kind name body) rest)
  | .matched error (.mk _ _ name body) rest =>
    match v with
    | .bool true => m.startHandler error name body
    | _ => m.findHandler error rest
  | .groupTried g (.mk span kind name body) =>
    m.actThen (.splitGroup g.left) [v] span (.groupSplit g (.mk span kind name body))
  | .groupSplit g (.mk _ _ name body) =>
    match v with
    | .tuple [.ref part, .ref others] =>
      m.startGroupHandler { g with left := some others } name body part
    | .tuple [.ref part, _] => m.startGroupHandler { g with left := none } name body part
    | _ => m.tryGroup g
  | .groupJoined before =>
    { m with handling := before }.goOn (match v with
      | .ref error => .raise error
      | _ => .done)
  | .choosing cases => m.tryCases v cases
  | .caseTried subject guard body rest span =>
    match v with
    | .tuple bound => m.enterCase subject bound guard body rest span
    | _ => m.tryCases subject rest
  | .guarded subject body rest => if isTrue v then m.run body else m.tryCases subject rest
  | .equalTo subject span => m.actThen (.compare .equal) [subject, v] span (.equalKnown span)
  | .equalKnown span =>
    m.withTruth v span (.equalKnown span) fun b => m.give (if b then fitting [] else .none)
  | .partTried bound rest =>
    match v with
    | .tuple more => m.tryParts (bound ++ more) rest
    | _ => m.give .none
  | .alternativeTried subject rest =>
    match v with
    | .tuple _ => m.give v
    | _ => m.tryAlternatives subject rest
  | .nameTried subject id =>
    match v with
    | .tuple bound => m.give (fitting (bound ++ [bindingOf id subject]))
    | _ => m.give .none
  | .mappingKnown subject entries others span =>
    if isTrue v then m.tryEntries subject entries others span else m.give .none
  | .sequenceParts patterns | .mappingParts patterns | .instanceParts patterns =>
    m.tryPartsOf patterns v
  | .importNext a rest span =>
    { m with heap := m.heap.setName m.here a.boundName v }.importAll span rest
  | .importMembers names span => m.importMembers v span names
  | .importMember module a rest span =>
    { m with heap := m.heap.setName m.here a.memberName v }.importMembers module span rest
  | .manage awaits target rest body span =>
    let m := m.push (.managed awaits v target rest body span)
    (m.waiting awaits span).act (.enter awaits) [v] span
  | .managed awaits manager target rest body span =>
    let m := (m.push (.withBody awaits manager span)).push (.startManaged awaits rest body span)
    match target with
    | some target => m.goOn (.store target v)
    | none => m.done
  | .exited completion before span => m.finishManaged completion before span v
  | .define awaits name params returns body decorators line =>
    let values := tupleItems v
    let later := values.drop decorators.length
    let count := (defaultsOf params).length
    let hints := ((hintsOf params returns).map (·.1)).zip (later.drop count)
    let (address, m) := m.makeFunction awaits name (m.qualify name) params (later.take count) hints body
      line (stmtsMentions body)
    m.decorate (values.zip (decorators.map (·.span))) name (.ref address)
  | .defineLambda params body => m.makeLambda params (tupleItems v) body
  | .decorate decorators name => m.decorate decorators name v
  | .defineClass name args body decorators span =>
    let shaped := args.map (shapeOf false span)
    (m.push (.openedClass name body ((tupleItems v).zip (decorators.map (·.span))) span)).operate
      (.openClass name (shaped.map (·.1))) [] (shaped.map (·.2)) span
  | .openedClass name body decorators span =>
    match v with
    | .tuple [bases, ids, values, names] =>
      let ids := (tupleItems ids).filterMap m.heap.text?
      let names := ((m.heap.mapping? names).getD {}).toList.filterMap fun (k, v) =>
        (m.heap.text? k).map fun id => (id, v)
      m.startClass name (tupleItems bases) (ids.zip (tupleItems values)) names body decorators span
    | _ => m.done
  | p => (m.push p).done

end Machine

end SnippetRunner.Evaluation
