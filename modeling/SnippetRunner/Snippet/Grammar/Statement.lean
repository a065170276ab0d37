import SnippetRunner.Snippet.Grammar.Pattern

/-!
# The grammar of statements

Simple statements on one line, compound statements with their blocks, and whole sources. Like the
rules for expressions, the rules for blocks are built by depth.
-/

namespace SnippetRunner.Snippet

open Reader

/-- The readers that statements use for what is inside them. -/
structure StmtRules where
  expr : ExprRules
  block : Reader (List Stmt)

namespace StmtRules

variable (g : StmtRules)

/-- A statement with the span since an index. -/
def stmt (start : Nat) (n : StmtNode) : Reader Stmt := do return .mk (← spanSince start) n

/-- An expression. -/
def expression : Reader Expr := g.expr.expression

/-- Expressions, as a tuple where a comma stands. -/
def expressions : Reader Expr := g.expr.starExpressions

/-- An expression that may bind a name. -/
def test : Reader Expr := g.expr.namedExpression

/-! ## Assignments -/

/-- What stands on the right of an assignment. -/
def rightSide : Reader Expr := g.expr.yieldExpression <|> expressions g

/-- The operators of augmented assignments. -/
def augmentedOps : List (String × BinaryOp) :=
  [("+=", .add), ("-=", .sub), ("*=", .mul), ("@=", .matMul), ("/=", .div), ("%=", .mod),
    ("&=", .bitAnd), ("|=", .bitOr), ("^=", .bitXor), ("<<=", .leftShift), (">>=", .rightShift),
    ("**=", .pow), ("//=", .floorDiv)]

/-- The operator of an augmented assignment. -/
def augmentedOp : Reader BinaryOp := do
  let t ← token fun t => t.kind == .operator && augmentedOps.any (·.1 == t.text)
  return ((augmentedOps.find? (·.1 == t.text)).map (·.2)).getD .add

/-- A list or a tuple where a type hint is given. -/
def invalidHintTarget : Nat → Reader Expr
  | 0 => absent
  | fuel + 1 =>
    g.expr.list <|> g.expr.tuple
    <|> (do
      let _ ← op "("
      let e ← invalidHintTarget fuel
      let _ ← op ")"
      return e)

/-- The mistakes of an assignment. -/
def invalidAssignment {α : Type} : Reader α :=
  (do
    let e ← invalidHintTarget g (← size)
    let _ ← op ":"
    let _ ← expression g
    refuseSpan e.span s!"only single target (not {e.description}) can be annotated")
  <|> (do
    let e ← g.expr.starNamed
    let _ ← op ","
    let _ ← many g.expr.starNamedList
    let _ ← op ":"
    let _ ← expression g
    refuseSpan e.span "only single target (not tuple) can be annotated")
  <|> (do
    let e ← expression g
    let _ ← op ":"
    let _ ← expression g
    refuseSpan e.span "illegal target for annotation")
  <|> (do
    let _ ← many (do
      let _ ← g.expr.starTargets
      op "=")
    let e ← expressions g
    let _ ← op "="
    refuseTarget .assign e)
  <|> (do
    let _ ← many (do
      let _ ← g.expr.starTargets
      op "=")
    let e ← g.expr.yieldExpression
    let _ ← op "="
    refuseSpan e.span "assignment to yield expression not possible")
  <|> (do
    let e ← expressions g
    let _ ← augmentedOp
    let _ ← rightSide g
    refuseSpan e.span s!"'{e.description}' is an illegal expression for augmented assignment")

/-- An assignment of any form. -/
def assignment : Reader Stmt := do
  let start ← here
  (do
    let t ← name
    let targetSpan ← spanSince start
    let _ ← op ":"
    let hint ← Reader.hint (expression g)
    let value ← optional (do let _ ← op "="; rightSide g)
    stmt start (.annotated (.mk targetSpan (.name t.text)) hint value true))
  <|> (do
    let target ← (do
      let _ ← op "("
      let e ← g.expr.singleTarget (← size)
      let _ ← op ")"
      return e) <|> g.expr.memberTarget
    let _ ← op ":"
    let hint ← Reader.hint (expression g)
    let value ← optional (do let _ ← op "="; rightSide g)
    stmt start (.annotated target hint value false))
  <|> (do
    let targets ← many1 (do
      let e ← g.expr.starTargets
      let _ ← op "="
      return e)
    let value ← rightSide g
    notAhead (op "=")
    stmt start (.assign targets value))
  <|> augmented start
  <|> whenExplaining (invalidAssignment g)
where
  /-- An augmented assignment; once its operator is read there is no other way. -/
  augmented (start : Nat) : Reader Stmt := fun s place =>
    let head : Reader (Expr × BinaryOp) := do
      let target ← g.expr.singleTarget (← size)
      return (target, ← augmentedOp)
    match head s place with
    | .found (target, op) place =>
      (do
        let value ← rightSide g
        stmt start (.augmented target op value)) s place
    | .absent place => .absent place
    | .refused stop => .refused stop

/-! ## Simple statements -/

/-- A dotted name. -/
def dottedName : Reader String := do
  let parts ← sepBy1 name (op ".")
  return String.intercalate "." (parts.map (·.text))

/-- `… as …` after an imported name. -/
def alias_ (id : Reader String) : Reader Alias := do
  let start ← here
  let n ← id
  let bound ← optional (do let _ ← word "as"; name)
  return ⟨n, bound.map (·.text), ← spanSince start⟩

/-- Names imported from a module. -/
def importedNames : Reader (List Alias) :=
  let names := sepBy1 (alias_ (do return (← name).text)) (op ",")
  (do
    let _ ← op "("
    let as ← names
    let _ ← optional (op ",")
    let _ ← op ")"
    return as)
  <|> (do let as ← names; notAhead (op ","); return as)
  <|> (do let t ← op "*"; return [⟨"*", none, ← tokenSpan t⟩])
  <|> whenExplaining (do
    let _ ← names
    let _ ← op ","
    let _ ← ofKind .newline
    refuseHere "trailing comma not allowed without surrounding parentheses")

/-- An import. -/
def importStatement : Reader Stmt := do
  let start ← here
  (do
    let _ ← word "import"
    let names ← sepBy1 (alias_ dottedName) (op ",")
    stmt start (.import_ names))
  <|> (do
    let _ ← word "from"
    let dots ← many (op "." <|> op "...")
    let level := dots.foldl (fun n t => n + t.text.length) 0
    let module ← optional dottedName
    if module.isNone && level = 0 then absent
    else do
      let _ ← word "import"
      let names ← importedNames
      stmt start (.importFrom (module.getD "") names level))

/-- Targets of a deletion. -/
def deleteTargets : Reader (List Expr) := do
  let items ← sepBy1 (deleteTarget g (← size)) (op ",")
  let _ ← optional (op ",")
  return items
where
  /-- One target of a deletion. -/
  deleteTarget (g : StmtRules) : Nat → Reader Expr
    | 0 => absent
    | fuel + 1 => remember 8 <|
      let several : Reader (List Expr) := do
        let items ← sepBy1 (deleteTarget g fuel) (op ",")
        let _ ← optional (op ",")
        return items
      g.expr.memberTarget
      <|> (do let start ← here; let t ← name; ExprRules.node start (.name t.text))
      <|> (do
        let _ ← op "("
        let e ← deleteTarget g fuel
        let _ ← op ")"
        return e)
      <|> (do
        let start ← here
        let _ ← op "("
        let items ← optional several
        let _ ← op ")"
        ExprRules.node start (.tuple (items.getD [])))
      <|> (do
        let start ← here
        let _ ← op "["
        let items ← optional several
        let _ ← op "]"
        ExprRules.node start (.list (items.getD [])))

/-- A deletion. -/
def deleteStatement : Reader Stmt := do
  let start ← here
  (do
    let _ ← word "del"
    let targets ← deleteTargets g
    ahead (op ";" <|> ofKind .newline)
    stmt start (.delete targets))
  <|> whenExplaining (do
    let _ ← word "del"
    let e ← expressions g
    refuseTarget .delete e)

/-- A statement that fits on one line. -/
def simpleStatement : Reader Stmt :=
  assignment g
  <|> (do
    let start ← here
    let e ← expressions g
    stmt start (.expression e))
  <|> (do
    let start ← here
    let t ← peek
    if t.kind != .keyword then absent
    else if t.text == "return" then do
      let _ ← word "return"
      let e ← optional (expressions g)
      stmt start (.return_ e)
    else if t.text == "import" || t.text == "from" then importStatement
    else if t.text == "raise" then
      (do
        let _ ← word "raise"
        let e ← expression g
        let cause ← optional (do let _ ← word "from"; expression g)
        stmt start (.raise (some e) cause))
      <|> (do let _ ← word "raise"; stmt start (.raise none none))
    else if t.text == "pass" then do let _ ← word "pass"; stmt start .pass
    else if t.text == "del" then deleteStatement g
    else if t.text == "yield" then do
      let e ← g.expr.yieldExpression
      stmt start (.expression e)
    else if t.text == "assert" then do
      let _ ← word "assert"
      let e ← expression g
      let message ← optional (do let _ ← op ","; expression g)
      stmt start (.assert e message)
    else if t.text == "break" then do let _ ← word "break"; stmt start .break_
    else if t.text == "continue" then do let _ ← word "continue"; stmt start .continue_
    else if t.text == "global" then do
      let _ ← word "global"
      let names ← sepBy1 name (op ",")
      stmt start (.global (names.map (·.text)))
    else if t.text == "nonlocal" then do
      let _ ← word "nonlocal"
      let names ← sepBy1 name (op ",")
      stmt start (.nonlocal (names.map (·.text)))
    else absent)

/-- The statements of one line. -/
def simpleStatements : Reader (List Stmt) :=
  (do
    let s ← simpleStatement g
    notAhead (op ";")
    let _ ← ofKind .newline
    return [s])
  <|> (do
    let ss ← sepBy1 (simpleStatement g) (op ";")
    let _ ← optional (op ";")
    let _ ← ofKind .newline
    return ss)

/-! ## Compound statements -/

/-- The mistake of a missing block after a head; `what` names the statement. -/
def invalidIndent {α : Type} (what : String) (line : Nat) : Reader α := do
  let _ ← ofKind .newline
  notAhead (ofKind .indent)
  refuseHere s!"expected an indented block after {what} on line {line}" .indentation

/-- The mistakes after `keyword test`: a missing colon or a missing block. -/
def invalidHead {α : Type} (keyword : String) : Reader α :=
  (do
    let _ ← word keyword
    let _ ← test g
    let _ ← ofKind .newline
    refuseHere "expected ':'")
  <|> (do
    let t ← word keyword
    let _ ← test g
    let _ ← op ":"
    invalidIndent s!"'{keyword}' statement" t.line)

/-- `else` and its block. -/
def elseBlock : Reader (List Stmt) :=
  whenExplaining (do
    let t ← word "else"
    let _ ← op ":"
    invalidIndent "'else' statement" t.line)
  <|> (do
    let _ ← word "else"
    let _ ← force ":"
    g.block)

/-- A condition with its block and what follows if it does not hold. -/
def conditionFrom (keyword : String) : Nat → Reader Stmt
  | 0 => absent
  | fuel + 1 =>
    whenExplaining (invalidHead g keyword)
    <|> (do
      let start ← here
      let _ ← word keyword
      let e ← test g
      let _ ← op ":"
      let body ← g.block
      let orElse ← (do return [← conditionFrom "elif" fuel]) <|> elseBlock g <|> done []
      stmt start (.if_ e body orElse))

/-- `while`. -/
def whileStatement : Reader Stmt :=
  whenExplaining (invalidHead g "while")
  <|> (do
    let start ← here
    let _ ← word "while"
    let e ← test g
    let _ ← op ":"
    let body ← g.block
    let orElse ← elseBlock g <|> done []
    stmt start (.while_ e body orElse))

/-- The word for what waits, if it is there. -/
def asyncMark : Reader Bool := do return (← optional (word "async")).isSome

/-- `for`. -/
def forStatement : Reader Stmt :=
  whenExplaining (
    (do
      let _ ← asyncMark
      let _ ← word "for"
      let _ ← g.expr.starTargets
      let _ ← word "in"
      let _ ← expressions g
      let _ ← ofKind .newline
      refuseHere "expected ':'")
    <|> (do
      let _ ← asyncMark
      let t ← word "for"
      let _ ← g.expr.starTargets
      let _ ← word "in"
      let _ ← expressions g
      let _ ← op ":"
      invalidIndent "'for' statement" t.line))
  <|> (do
    let start ← here
    let awaits ← asyncMark
    let _ ← word "for"
    let target ← g.expr.starTargets
    let _ ← word "in"
    let iterable ← expressions g
    let _ ← op ":"
    let body ← g.block
    let orElse ← elseBlock g <|> done []
    stmt start (if awaits then .asyncFor target iterable body orElse
      else .for_ target iterable body orElse))
  <|> whenExplaining g.expr.invalidForTarget

/-- A name for what a handler handles. -/
def handlerName : Reader (Option Token) := optional (do let _ ← word "as"; name)

/-- The mistakes after the head of an `except`. -/
def invalidHandler {α : Type} : Reader α :=
  (do
    let _ ← word "except"
    let _ ← optional (op "*")
    let a ← expression g
    let _ ← op ","
    let _ ← sepBy1 (expression g) (op ",")
    let _ ← optional (op ",")
    let _ ← handlerName
    let _ ← op ":"
    refuseFrom a.span "multiple exception types must be parenthesized")
  <|> (do
    let _ ← word "except"
    let _ ← optional (op "*")
    let _ ← expression g
    let _ ← handlerName
    let _ ← ofKind .newline
    refuseHere "expected ':'")
  <|> (do
    let _ ← word "except"
    let _ ← ofKind .newline
    refuseHere "expected ':'")
  <|> (do
    let _ ← word "except"
    let _ ← op "*"
    let _ ← ofKind .newline <|> op ":"
    refuseHere "expected one or more exception types")

/-- One `except`. -/
def handler : Reader Handler :=
  whenExplaining (
    (do
      let t ← word "except"
      let _ ← expression g
      let _ ← handlerName
      let _ ← op ":"
      invalidIndent "'except' statement" t.line)
    <|> (do
      let t ← word "except"
      let _ ← op ":"
      invalidIndent "'except' statement" t.line))
  <|> (do
    let start ← here
    let _ ← word "except"
    let e ← expression g
    let bound ← handlerName
    let _ ← op ":"
    let body ← g.block
    return .mk (← spanSince start) (some e) (bound.map (·.text)) body)
  <|> (do
    let start ← here
    let _ ← word "except"
    let _ ← op ":"
    let body ← g.block
    return .mk (← spanSince start) none none body)
  <|> whenExplaining (invalidHandler g)

/-- One `except*`. -/
def groupHandler : Reader Handler :=
  whenExplaining (do
    let t ← word "except"
    let _ ← op "*"
    let _ ← expression g
    let _ ← handlerName
    let _ ← op ":"
    invalidIndent "'except*' statement" t.line)
  <|> (do
    let start ← here
    let _ ← word "except"
    let _ ← op "*"
    let e ← expression g
    let bound ← handlerName
    let _ ← op ":"
    let body ← g.block
    return .mk (← spanSince start) (some e) (bound.map (·.text)) body)
  <|> whenExplaining (invalidHandler g)

/-- The mistake of handlers of both kinds after one `try`. -/
def invalidMixture {α : Type} : Reader α :=
  let complaint := "cannot have both 'except' and 'except*' on the same 'try'"
  (do
    let _ ← word "try"
    let _ ← op ":"
    let _ ← many g.block
    let _ ← many1 (handler g)
    let start ← here
    let _ ← word "except"
    let _ ← op "*"
    let span ← spanSince start
    let _ ← expression g
    let _ ← handlerName
    let _ ← op ":"
    refuseSpan span complaint)
  <|> (do
    let _ ← word "try"
    let _ ← op ":"
    let _ ← many g.block
    let _ ← many1 (groupHandler g)
    let start ← here
    let _ ← word "except"
    let span ← spanSince start
    let _ ← optional (do let _ ← expression g; handlerName)
    let _ ← op ":"
    refuseSpan span complaint)

/-- `finally` and its block. -/
def finalBlock : Reader (List Stmt) :=
  whenExplaining (do
    let t ← word "finally"
    let _ ← op ":"
    invalidIndent "'finally' statement" t.line)
  <|> (do
    let _ ← word "finally"
    let _ ← force ":"
    g.block)

/-- `try`. -/
def tryStatement : Reader Stmt :=
  whenExplaining (
    (do
      let t ← word "try"
      let _ ← op ":"
      invalidIndent "'try' statement" t.line)
    <|> (do
      let _ ← word "try"
      let _ ← op ":"
      let _ ← g.block
      notAhead (word "except" <|> word "finally")
      refuseHere "expected 'except' or 'finally' block")
    <|> invalidMixture g)
  <|> (do
    let start ← here
    let _ ← word "try"
    let _ ← force ":"
    let body ← g.block
    let final ← finalBlock g
    stmt start (.try_ body [] [] final))
  <|> (do
    let start ← here
    let _ ← word "try"
    let _ ← force ":"
    let body ← g.block
    let handlers ← many1 (handler g)
    let orElse ← elseBlock g <|> done []
    let final ← finalBlock g <|> done []
    stmt start (.try_ body handlers orElse final))
  <|> (do
    let start ← here
    let _ ← word "try"
    let _ ← force ":"
    let body ← g.block
    let handlers ← many1 (groupHandler g)
    let orElse ← elseBlock g <|> done []
    let final ← finalBlock g <|> done []
    stmt start (.tryStar body handlers orElse final))

/-- One item of a `with`. -/
def withItem : Reader (Expr × Option Expr) :=
  (do
    let e ← expression g
    let _ ← word "as"
    let target ← g.expr.starTarget
    ahead (op "," <|> op ")" <|> op ":")
    return (e, some target))
  <|> whenExplaining (do
    let _ ← expression g
    let _ ← word "as"
    let e ← expression g
    ahead (op "," <|> op ")" <|> op ":")
    refuseTarget .assign e)
  <|> (do return (← expression g, none))

/-- The target of an item of a `with`, if there is one. -/
def withTarget : Reader Unit := do
  let _ ← optional (do let _ ← word "as"; g.expr.starTarget)

/-- The items of a `with`. -/
def bareWithItems : Reader Unit := do
  let _ ← sepBy1 (do let _ ← expression g; withTarget g) (op ",")

/-- The items of a `with` in brackets. -/
def bracketedWithItems : Reader Unit := do
  let _ ← op "("
  let _ ← sepBy1 (do
    let _ ← sepBy1 (expression g) (op ",")
    let _ ← optional (op ",")
    withTarget g) (op ",")
  let _ ← optional (op ",")
  let _ ← op ")"

/-- The mistakes after the items of a `with` that starts on a line. -/
def invalidWith {α : Type} (rest : Nat → Reader α) : Reader α :=
  (do let _ ← asyncMark; let t ← word "with"; bareWithItems g; rest t.line)
  <|> (do let _ ← asyncMark; let t ← word "with"; bracketedWithItems g; rest t.line)

/-- `with`. -/
def withStatement : Reader Stmt :=
  whenExplaining (invalidWith g fun line => do
    let _ ← op ":"
    invalidIndent "'with' statement" line)
  <|> (do
    let start ← here
    let awaits ← asyncMark
    let _ ← word "with"
    let _ ← op "("
    let items ← sepBy1 (withItem g) (op ",")
    let _ ← optional (op ",")
    let _ ← op ")"
    let _ ← op ":"
    let body ← g.block
    stmt start (if awaits then .asyncWith items body else .with_ items body))
  <|> (do
    let start ← here
    let awaits ← asyncMark
    let _ ← word "with"
    let items ← sepBy1 (withItem g) (op ",")
    let _ ← op ":"
    let body ← g.block
    stmt start (if awaits then .asyncWith items body else .with_ items body))
  <|> whenExplaining (invalidWith g fun _ => do
    let _ ← ofKind .newline
    refuseHere "expected ':'")

/-- The brackets of a function's parameters. -/
def optionalParameters : Reader Parameters := do
  return (← optional (g.expr.parameters ExprRules.functionStyle)).getD default

/-- `def`. -/
def functionStatement (decorators : List Expr) : Reader Stmt :=
  whenExplaining (do
    let _ ← asyncMark
    let t ← word "def"
    let _ ← name
    let _ ← op "("
    let _ ← optionalParameters g
    let _ ← op ")"
    let _ ← optional (do let _ ← op "->"; expression g)
    let _ ← op ":"
    invalidIndent "function definition" t.line)
  <|> (do
    let start ← here
    let awaits ← asyncMark
    let _ ← word "def"
    let t ← name
    let _ ← force "("
    let ps ← optionalParameters g
    let _ ← op ")"
    let returns ← optional (do let _ ← op "->"; Reader.hint (expression g))
    let _ ← force ":"
    let body ← g.block
    stmt start (.function awaits t.text ps returns body decorators))

/-- The brackets of a class's parents. -/
def classArguments : Reader (List Argument) := do
  let found ← optional (do
    let _ ← op "("
    let as ← optional g.expr.arguments
    let _ ← op ")"
    return as.getD [])
  return found.getD []

/-- `class`. -/
def classStatement (decorators : List Expr) : Reader Stmt :=
  whenExplaining (
    (do
      let _ ← word "class"
      let _ ← name
      let _ ← classArguments g
      let _ ← ofKind .newline
      refuseHere "expected ':'")
    <|> (do
      let t ← word "class"
      let _ ← name
      let _ ← classArguments g
      let _ ← op ":"
      invalidIndent "class definition" t.line))
  <|> (do
    let start ← here
    let _ ← word "class"
    let t ← name
    let as ← classArguments g
    let _ ← op ":"
    let body ← g.block
    stmt start (.class_ t.text as body decorators))

/-- What a `match` looks at. -/
def subject : Reader Expr :=
  (do
    let start ← here
    let first ← g.expr.starNamed
    let _ ← op ","
    let more ← optional g.expr.starNamedList
    ExprRules.node start (.tuple (first :: more.getD [])))
  <|> test g

/-- The condition of a `case`. -/
def guard : Reader Expr := do
  let _ ← word "if"
  test g

/-- The mistakes after the head of a `case`. -/
def invalidCase {α : Type} : Reader α :=
  (do
    let _ ← PatternRules.softWord "case"
    let _ ← PatternRules.patterns g.expr (← size)
    let _ ← optional (guard g)
    let _ ← ofKind .newline
    refuseHere "expected ':'")
  <|> (do
    let t ← PatternRules.softWord "case"
    let _ ← PatternRules.patterns g.expr (← size)
    let _ ← optional (guard g)
    let _ ← op ":"
    invalidIndent "'case' statement" t.line)

/-- `case`. -/
def caseBlock : Reader Case :=
  whenExplaining (invalidCase g)
  <|> (do
    let _ ← PatternRules.softWord "case"
    let p ← PatternRules.patterns g.expr (← size)
    let test ← optional (guard g)
    let _ ← op ":"
    return .mk p test (← g.block))

/-- `match`. -/
def matchStatement : Reader Stmt :=
  (do
    let start ← here
    let _ ← PatternRules.softWord "match"
    let e ← subject g
    let _ ← op ":"
    let _ ← ofKind .newline
    let _ ← ofKind .indent
    let cases ← many1 (caseBlock g)
    let _ ← ofKind .dedent
    stmt start (.match_ e cases))
  <|> whenExplaining (
    (do
      let _ ← PatternRules.softWord "match"
      let _ ← subject g
      let _ ← ofKind .newline
      refuseHere "expected ':'")
    <|> (do
      let t ← PatternRules.softWord "match"
      let _ ← subject g
      let _ ← op ":"
      invalidIndent "'match' statement" t.line))

/-- Decorators, each on a line. -/
def decorators : Reader (List Expr) := many1 (do
  let _ ← op "@"
  let e ← test g
  let _ ← ofKind .newline
  return e)

/-- A statement with blocks. -/
def compoundStatement : Reader Stmt := do
  let t ← peek
  if t.kind == .operator && t.text == "@" then
    let ds ← decorators g
    functionStatement g ds <|> classStatement g ds
  else if t.kind == .name && t.text == "match" then matchStatement g
  else if t.kind != .keyword then absent
  else if t.text == "def" then functionStatement g []
  else if t.text == "if" then conditionFrom g "if" (← size)
  else if t.text == "class" then classStatement g []
  else if t.text == "with" then withStatement g
  else if t.text == "for" then forStatement g
  else if t.text == "try" then tryStatement g
  else if t.text == "while" then whileStatement g
  else if t.text == "async" then
    functionStatement g [] <|> withStatement g <|> forStatement g
  else absent

/-- Statements one after another. -/
def statements : Reader (List Stmt) := do
  let found ← many1 ((do return [← compoundStatement g]) <|> simpleStatements g)
  return found.flatten

/-- A block: an indented one, or statements on the same line. -/
def block' : Reader (List Stmt) := rememberBlock <|
  (do
    let _ ← ofKind .newline
    let _ ← ofKind .indent
    let body ← statements g
    let _ ← ofKind .dedent
    return body)
  <|> simpleStatements g
  <|> whenExplaining (do
    let _ ← ofKind .newline
    notAhead (ofKind .indent)
    refuseHere "expected an indented block" .indentation)

/-- The rules for blocks nested up to a depth. -/
def ofDepth (expr : ExprRules) : Nat → StmtRules
  | 0 => ⟨expr, absent⟩
  | depth + 1 => ⟨expr, block' (ofDepth expr depth)⟩

/-- A whole source. -/
def file : Reader (List Stmt) := do
  let body ← optional (statements g)
  let _ ← ofKind .finish
  return body.getD []

end StmtRules

end SnippetRunner.Snippet
