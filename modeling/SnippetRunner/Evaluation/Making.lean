import SnippetRunner.Evaluation.Machine
import SnippetRunner.Snippet.Spelling

/-!
# Making functions and classes

A function keeps its body and the scope it was made in. A comprehension is a function that hands
out its items one after another. A class is made by running its body in a scope of its own.
-/

namespace SnippetRunner.Evaluation

open SnippetRunner.Snippet

/-- The text that a body begins with, if it begins with one. -/
def leadingText? : List Stmt → Option String
  | .mk _ (.expression (.mk _ (.literal (.text s)))) :: _ => some s
  | _ => none

mutual

/-- The place at which the truth of a condition is asked for last: that of a comparison, once
there has been one. -/
def testPlace (span : Span) (e : Expr) : Span :=
  match e with
  | .mk place (.compare _ _) => place
  | .mk _ (.unary .not e) => testPlace span e
  | .mk _ (.boolean _ es) => testPlaces span es
  | .mk _ (.conditional e yes no) => testPlace (testPlace (testPlace span e) yes) no
  | _ => span

/-- The place at which the truth of the last one of several conditions is asked for. -/
def testPlaces (span : Span) (es : List Expr) : Span :=
  match es with
  | [] => span
  | e :: rest => testPlaces (testPlace span e) rest

end

/-- The default values of parameters, in the order in which they are evaluated, with their
names. -/
def defaultsOf (params : Parameters) : List (String × Expr) :=
  (params.positional ++ params.keywordOnly).filterMap fun p => p.default.map fun e => (p.id, e)

/-- The attribute that keeps type hints, if there are any. -/
def Heap.withHints (h : Heap) (hints : Table) : Table × Heap :=
  if hints.isEmpty then ([], h)
  else
    let (address, h) := h.allocate (.mapping (.ofTable hints))
    ([("__annotations__", .ref address)], h)

namespace Machine

/-- The qualified name of something that is defined in the current block. -/
def qualify (m : Machine) (name : String) : String :=
  match m.heap.placeOf m.here name with
  | .global => if m.here.scope.isSome then name else m.here.qualifier ++ name
  | _ => m.here.qualifier ++ name

/-- Makes a function of a body. -/
def makeFunction (m : Machine) (awaits : Bool) (name qualname : String) (params : Parameters)
    (defaults : List Value) (hints : Table) (body : List Stmt) (line : Nat)
    (mentions : List Mention) : Nat × Machine :=
  let own := privateName m.here.owner
  let (hintTable, heap) := m.heap.withHints (hints.map fun (id, v) => (own id, v))
  let f : Function :=
    { name, qualname, file := m.here.file, parameters := params
      defaults := ((defaultsOf params).map fun (id, _) => own id).zip defaults
      kind := .function
      names :=
        { (Names.of .function (params.all.map (·.id)) mentions).mapped own with
          first := params.positional.head?.map fun p => own p.id }
      body, suspends := suspends mentions, awaits, line, owner := m.here.owner
      globals := m.here.globals
      known := m.heap.knownAt m.here.globals m.here.known
      closure := m.heap.closureOf m.here
      attributes := hintTable ++ match leadingText? body with
        | some s => [("__doc__", .text s)]
        | none => [] }
  let (address, heap) := heap.allocate (.function f)
  (address, { m with heap })

/-- Makes the function of a `lambda`. -/
def makeLambda (m : Machine) (params : Parameters) (defaults : List Value) (body : Expr) :
    Machine :=
  let (address, m) := m.makeFunction false "<lambda>" (m.here.qualifier ++ "<lambda>") params defaults []
    [.mk body.span (.return_ (some body))] body.span.line (body.mentions false)
  m.give (.ref address)

/-- The statements of a comprehension: loops and conditions around the item, which is handed
out; an item that is to be a key is handed out in a set or a mapping of its own. The first loop
takes its items from an iterator that is there at the start. What follows a condition is reported
at the place where its truth is asked for. -/
def comprehensionBody (kind : ComprehensionKind) (span : Span) (item : Expr) (value : Option Expr)
    (first : Bool) : List Clause → List Stmt
  | [] =>
    let handed := match kind, value with
      | .set, _ => .mk span (.set [item])
      | _, some v => .mk span (.mapping [(some item, v)])
      | _, none => item
    [.mk span (.expression (.mk span (.yield (some handed))))]
  | .mk awaits target iterable conditions :: rest =>
    let inner := comprehensionBody kind (testPlaces span conditions) item value false rest
    let body := guarded span inner conditions
    let source := if first then .mk span (.name ".0") else iterable
    [.mk span (if awaits then .asyncFor target source body [] else .for_ target source body [])]
where
  /-- Statements under conditions. -/
  guarded (span : Span) (inner : List Stmt) : List Expr → List Stmt
    | [] => inner
    | test :: rest => [.mk span (.if_ test (guarded (testPlace span test) inner rest) [])]

/-- Begins a comprehension: its first iterable belongs to the block around. -/
def startComprehension (m : Machine) (kind : ComprehensionKind) (item : Expr)
    (value : Option Expr) (clauses : List Clause) (span : Span) : Machine :=
  let mentions := comprehensionMentions (.mk span (.comprehension kind item value clauses))
  let names :=
    { (Names.of .comprehension [".0"] mentions).mapped (privateName m.here.owner) with
      first := some ".0" }
  let body := comprehensionBody kind span item value true clauses
  match clauses with
  | .mk awaits _ iterable _ :: _ =>
    (m.push (.comprehend kind (awaitsAmong mentions) body names span)).operate
      (if awaits then .asyncIterate else .iterate) [] [iterable] span
  | [] => m.give .none

/-- Waits for the next item of a comprehension. -/
def gatherNext (m : Machine) (kind : ComprehensionKind) (generator : Value) (items : List Value)
    (span : Span) : Machine :=
  ((m.push (.asyncGather kind generator items span)).push (.delegateTo span)).act .asyncNext
    [generator] span

/-- Makes the generator of a comprehension, and of its items what the comprehension stands
for. -/
def comprehend (m : Machine) (kind : ComprehensionKind) (awaits : Bool) (body : List Stmt) (names : Names)
    (span : Span) (iterator : Value) : Machine :=
  let scope : Scope :=
    { kind := .comprehension, names, table := [(".0", iterator)]
      parent := m.heap.closureOf m.here }
  let (address, heap) := m.heap.allocate (.scope scope)
  let here : Activation :=
    { name := kind.frameName, owner := m.here.owner
      qualifier := m.here.qualifier ++ kind.frameName ++ ".<locals>."
      file := m.here.file, scope := some address, globals := m.here.globals
      known := m.heap.knownAt m.here.globals m.here.known }
  let (generator, heap) := heap.allocate
    (.generator (if awaits then .asyncGenerator else .generator)
      (m.here.qualifier ++ kind.frameName) (.waiting here [.block body] span false none))
  let m := { m with heap }
  match kind, awaits with
  | .generator, _ => m.give (.ref generator)
  | _, false => m.act (.gather kind) [.ref generator] span
  | _, true => m.gatherNext kind (.ref generator) [] span


/-- Applies decorators to what was defined, the last one first, and names the result. -/
def decorate (m : Machine) (decorators : List (Value × Span)) (name : String) (v : Value) :
    Machine :=
  match decorators.reverse with
  | [] => m.assignName name v
  | (decorator, span) :: rest =>
    m.actThen (.call [.positional]) [decorator, v] span (.decorate rest.reverse name)

/-- Begins a class: its body runs in a scope of its own, which holds some names from the start. -/
def startClass (m : Machine) (name : String) (bases : List Value) (options names : Table)
    (body : List Stmt) (decorators : List (Value × Span)) (span : Span) : Machine :=
  let cell : Scope :=
    { kind := .function, names := { locals := ["__class__"] }, table := []
      parent := m.heap.closureOf m.here }
  let (cellAddress, heap) := m.heap.allocate (.scope cell)
  let qualname := m.qualify name
  let doc : Table := match leadingText? body with
    | some s => [("__doc__", .text s)]
    | none => []
  let (hints, heap) :=
    if stmtsHint body then
      let (hints, heap) := heap.allocate (.mapping {})
      ([("__annotations__", Value.ref hints)], heap)
    else ([], heap)
  let module := ((heap.names m.here.globals).get? "__name__").getD .none
  let scope : Scope :=
    { kind := .class_
      names := (Names.of .class_ [] (stmtsMentions body)).mapped (privateName (some name))
      table := names.update
        ([("__module__", module), ("__qualname__", .text qualname)] ++ doc ++ hints)
      parent := some cellAddress }
  let (scopeAddress, heap) := heap.allocate (.scope scope)
  let here : Activation :=
    { name, owner := some name, qualifier := qualname ++ ".", file := m.here.file
      scope := some scopeAddress, globals := m.here.globals
      known := heap.knownAt m.here.globals m.here.known }
  { m with heap }.enter
    (.classBody name bases options cellAddress scopeAddress decorators span m.here m.handling)
    here [.block body] .done

/-- Ends a class: it is made of what its body named. -/
def finishClass (m : Machine) (name : String) (bases : List Value) (options : Table)
    (cell scope : Nat) (decorators : List (Value × Span)) (span : Span) : Machine :=
  m.actThen (.makeClass name cell scope (options.map (·.1))) (bases ++ options.map (·.2)) span
    (.decorate decorators name)

end Machine

end SnippetRunner.Evaluation
