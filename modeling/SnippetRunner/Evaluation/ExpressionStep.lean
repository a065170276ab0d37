import SnippetRunner.Evaluation.Making

/-!
# Evaluating expressions

What the first step is for each kind of expression.
-/

namespace SnippetRunner.Evaluation

open SnippetRunner.Snippet

/-- The stretch that belongs to an attribute and what is done with it. Where the value before it
begins on an earlier line, the complaint begins with the name. -/
def nameSpan (owner : Span) (name : String) (span : Span) : Span :=
  if owner.line = owner.endLine then span
  else { span with line := owner.endLine, column := owner.endColumn - name.length }

/-- The stretch of a method's name and call. -/
def methodSpan (owner : Expr) (span : Span) : Span :=
  match owner with
  | .mk place (.attribute _ name) => nameSpan place name span
  | _ => span

/-- Whether an argument is passed as it is. -/
def isPlain : Argument → Bool
  | .positional _ => true
  | .keyword _ _ _ => true
  | _ => false

/-- The least number of arguments, with one more where some are named, of a call that is told from
its start even if it is one of a method. -/
def longCall : Nat := 30

/-- Whether a call is one of a method at once: its arguments are few and passed as they are. -/
def isMethodCall (args : List Argument) : Bool :=
  let named := args.any fun a =>
    match a with
    | .keyword _ _ _ => true
    | _ => false
  args.all isPlain && args.length + (if named then 1 else 0) < longCall

/-- What is evaluated for a spread value: the value itself if it stands alone. Among others it is
taken apart before the next one is evaluated. -/
def spreadItem (alone : Bool) (span : Span) (e : Expr) : Expr :=
  if alone then e else .mk span (.tuple [.mk e.span (.starred e)])

/-- The shape and the expression of an argument; `alone` if no other one is passed by position. -/
def shapeOf (alone : Bool) (span : Span) : Argument → ArgumentShape × Expr
  | .positional e => (.positional, e)
  | .spread e => (.spread, spreadItem alone span e)
  | .keyword _ id e => (.keyword id, e)
  | .spreadKeywords e => (.spreadKeywords, e)

/-- Whether an argument is passed by position. -/
def isPlaced : Argument → Bool
  | .positional _ | .spread _ => true
  | _ => false

/-- Whether an item of a display is spread, and what is evaluated for it. -/
def displayItem : Expr → Bool × Expr
  | .mk _ (.starred e) => (true, e)
  | e => (false, e)

/-- The items of a display of a row, in the same way. -/
def rowItems (span : Span) (items : List Expr) : List (Bool × Expr) :=
  items.map fun item =>
    match item with
    | .mk _ (.starred e) => (true, spreadItem (items.length = 1) span e)
    | e => (false, e)

mutual

/-- Whether an expression is the same whenever it is evaluated. -/
def isConstant : Expr → Bool
  | .mk _ node =>
    match node with
    | .literal _ => true
    | .unary _ e => isConstant e
    | .binary _ e f => isConstant e && isConstant f
    | .tuple items => areConstant items
    | _ => false

/-- Whether expressions are all the same whenever they are evaluated. -/
def areConstant : List Expr → Bool
  | [] => true
  | e :: rest => isConstant e && areConstant rest

end

/-- Whether an entry of a mapping display is spread, and what is evaluated for it. -/
def displayEntry : Option Expr × Expr → Bool × List Expr
  | (some key, value) => (false, [key, value])
  | (none, value) => (true, [value])

/-- An expression that may be left out. -/
def orNone (span : Span) : Option Expr → Expr
  | some e => e
  | none => .mk span (.literal .none)

namespace Machine

/-- The value that is written out. -/
def giveLiteral (m : Machine) : Literal → Machine
  | .none => m.give .none
  | .bool b => m.give (.bool b)
  | .int n => m.give (.int n)
  | .float x => m.give (.float x)
  | .imaginary x => m.give (.complex 0.0 x)
  | .text s => m.give (.text s)
  | .bytes bs => m.give (.bytes bs)
  | .ellipsis => m.give .ellipsis

/-- The value of a name. -/
def giveName (m : Machine) (id : String) (span : Span) : Machine :=
  match m.heap.lookup m.here id with
  | .ok v => m.give v
  | .error unbound => m.failUnbound unbound span

/-- Puts the pieces of a text together. -/
def join (m : Machine) (done : List Value) (span : Span) : List Piece → Machine
  | [] => m.act .join done.reverse span
  | .text s :: rest => m.join (.text s :: done) span rest
  | .value e conversion format :: rest =>
    (m.push (.pieces done rest span)).evalThen e (.pieceValue conversion format span)

/-- The arguments of `super` that are left out: the class that the function belongs to, and its
first argument. -/
def impliedArguments (m : Machine) : Except String (List Value) :=
  match (m.here.scope.bind m.heap.scope?).bind fun s => s.names.first.map fun id => (s, id) with
  | none => .error "super(): no arguments"
  | some (s, id) =>
    match s.table.get? id, m.heap.lookup m.here "__class__" with
    | none, _ => .error "super(): arg[0] deleted"
    | some self, .ok kind => .ok [kind, self]
    | some _, .error (.undefined _) => .error "super(): __class__ cell not found"
    | some _, .error _ => .error "super(): empty __class__ cell"

/-- Whether a call is one of `super` without arguments. -/
def isBareSuper (m : Machine) (function : Expr) (args : List Argument) : Bool :=
  match function, args with
  | .mk _ (.name id), [] =>
    match m.heap.lookup m.here id with
    | .ok (.type "super") => true
    | _ => false
  | _, _ => false

/-- Evaluates a call. -/
def evalCall (m : Machine) (function : Expr) (args : List Argument) (span : Span) : Machine :=
  if m.isBareSuper function args then
    match m.impliedArguments with
    | .ok values => m.act (.call [.positional, .positional]) (.type "super" :: values) span
    | .error complaint => m.fail ⟨"RuntimeError", complaint⟩ span
  else
    let alone := (args.filter isPlaced).length = 1
    let shaped := args.map (shapeOf alone span)
    let op := Operation.call (shaped.map (·.1))
    m.operate op [] (function :: shaped.map (·.2))
      (if isMethodCall args then methodSpan function span else span)

mutual

/-- Evaluates a condition and goes on with its truth. `span` is the place at which its truth is
asked for. -/
def test (m : Machine) (e : Expr) (span : Span) : Machine :=
  match e with
  | .mk _ (.unary .not e) => (m.push .negate).test e span
  | .mk _ (.boolean conjunction (e :: rest)) => m.testAll conjunction span (e :: rest)
  | .mk _ (.conditional e yes no) =>
    let spanYes := testPlace span e
    (m.push (.testChosen yes no spanYes (testPlace spanYes yes))).test e span
  | e => m.evalThen e (.truth (testPlace span e))

/-- Evaluates the conditions of a conjunction or a disjunction as long as they matter. -/
def testAll (m : Machine) (conjunction : Bool) (span : Span) (es : List Expr) : Machine :=
  match es with
  | [] => m.give (.bool conjunction)
  | [e] => m.test e span
  | e :: rest => (m.push (.testMore conjunction rest (testPlace span e))).test e span

end

/-- The first step of an expression. -/
def evalStep (m : Machine) (span : Span) : ExprNode → Machine
  | .literal l => m.giveLiteral l
  | .name id => if id == constantName then m.give (.bool true) else m.giveName id span
  | .tuple items =>
    let shaped := rowItems span items
    m.operate (.tuple (shaped.map (·.1))) [] (shaped.map (·.2)) span
  | .list items =>
    let shaped := rowItems span items
    m.operate (.list (shaped.map (·.1))) [] (shaped.map (·.2)) span
  | .set items =>
    let shaped := items.map displayItem
    let constant := 3 ≤ items.length && areConstant items
    m.operate (.set (shaped.map (·.1)) constant) [] (shaped.map (·.2)) span
  | .mapping entries =>
    let shaped := entries.map displayEntry
    m.operate (.mapping (shaped.map (·.1))) [] (shaped.flatMap (·.2)) span
  | .attribute value name =>
    m.operate (.attribute (privateName m.here.owner name)) [] [value] (nameSpan span name span)
  | .subscript value index => m.operate .item [] [value, index] span
  | .slice lower upper step =>
    m.operate .slice [] [orNone span lower, orNone span upper, orNone span step] span
  | .call function args => m.evalCall function args span
  | .starred _ => m.fail ⟨"SyntaxError", "can't use starred expression here"⟩ span
  | .unary op value => m.operate (.unary op) [] [value] span
  | .binary op left right => m.operate (.binary op) [] [left, right] span
  | .compare first [] => m.goOn (.eval first)
  | .compare first (next :: rest) => m.evalThen first (.compareNext next rest span)
  | .boolean _ [] => m.give .none
  | .boolean conjunction (v :: rest) => m.evalThen v (.boolean conjunction rest span)
  | .conditional test yes no => (m.push (.choose yes no)).test test span
  | .lambda params body =>
    (m.push (.defineLambda params body)).operate (.tuple []) []
      ((defaultsOf params).map (·.2)) span
  | .comprehension kind item value clauses => m.startComprehension kind item value clauses span
  | .joined pieces => m.join [] span pieces
  | .assignment id _ value => m.evalThen value (.nameIt id)
  | .yield value => m.evalThen (orNone span value) (.yielding span)
  | .yieldFrom value => (m.push (.delegateTo span)).operate .iterate [] [value] span
  | .await value => (m.push (.delegateTo span)).operate (.awaitable .expression) [] [value] span
  | .quoted e => m.give (.text e.spelled)

end Machine

end SnippetRunner.Evaluation
