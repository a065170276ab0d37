import SnippetRunner.Snippet.Grammar.Parameters
import SnippetRunner.Snippet.Grammar.Reader

/-!
# The top of the grammar of expressions

Conditional expressions, lambdas, named expressions and lists of expressions, and the record of
rules of any depth.

Tokens are read twice at most: once plainly, and if that fails once more looking for the reason.
Without a better reason the refusal is about the furthest word that was looked at. A fault in the
words of the rest of the source goes before any other reason.
-/

namespace SnippetRunner.Snippet

/-- A refusal for the rest of the words, which goes before one that was found earlier: a fault of
its own, or a bracket that was opened on an earlier line and never closed. -/
def laterFault (tokens : Tokens) (seen : Nat) (found : Refusal) : Refusal :=
  let line := (tokens.tokens.getD (seen - 1) default).line
  match tokens.fault with
  | some (.refused refusal, _) => refusal
  | some (.unclosed bracket, stop) =>
    if bracket.line < line then Reader.refusalOf tokens (.unclosed bracket, stop) else found
  | _ => found

/-- The refusal for a source whose furthest word in the first reading was a token, when the
second reading found no reason. -/
def plainRefusal (tokens : Tokens) (seen seenNow : Nat) : Refusal :=
  let last := tokens.tokens.getD (seen - 1) default
  let now := tokens.tokens.getD (seenNow - 1) default
  match last.kind with
  | .indent => tokens.source.refuseHere now .indentation "unexpected indent"
  | .dedent => tokens.source.refuseHere now .indentation "unexpected unindent"
  | _ => laterFault tokens seenNow (tokens.source.refuseToken now .grammar "invalid syntax" last)

/-- The refusal at which reading stopped, unless a later fault goes before it. -/
def finalRefusal (tokens : Tokens) (stop : Stop) : Refusal :=
  if stop.byWords then stop.refusal else laterFault tokens stop.seen stop.refusal

/-- Reads tokens with a rule; the second reading explains why the first one failed. -/
def readExplained {α : Type} (s : Setting) (rule : Reader α) : Except Refusal α :=
  match rule s {} with
  | .found value _ => .ok value
  | .refused stop => .error (finalRefusal s.tokens stop)
  | .absent first =>
    match rule { s with explain := true } {} with
    | .refused stop => .error (finalRefusal s.tokens stop)
    | .found _ second => .error (plainRefusal s.tokens first.seen second.seen)
    | .absent second => .error (plainRefusal s.tokens first.seen second.seen)

open Reader

namespace ExprRules

variable (g : ExprRules)

/-- How the parameters of a lambda are written. -/
def lambdaStyle : ParameterStyle := ⟨":", false⟩

/-- How the parameters of a function are written. -/
def functionStyle : ParameterStyle := ⟨")", true⟩

/-- `lambda … : …`. -/
def lambda : Reader Expr := do
  let start ← here
  let _ ← word "lambda"
  let ps ← optional (parameters g lambdaStyle)
  let _ ← op ":"
  let body ← g.expression
  node start (.lambda (ps.getD default) body)

/-- `… if … else …`. -/
def conditional : Reader Expr := do
  let start ← here
  let yes ← disjunction' g
  let _ ← word "if"
  let test ← disjunction' g
  let _ ← word "else"
  let no ← g.expression
  node start (.conditional test yes no)

/-- An expression, without looking for mistakes at its start. -/
def plainExpression : Reader Expr := conditional g <|> disjunction' g <|> lambda g

/-- A statement of an older form of the language. -/
def isLegacy (e : Expr) : Bool :=
  match e.node with
  | .name id => id == "print" || id == "exec"
  | _ => false

/-- How many brackets are open after the last token taken. -/
def depthHere : Reader Nat := fun s place =>
  .found ((s.tokens.tokens.getD (place.index - 1) default).depth) place

/-- Whether a name may be the start of a word that is a keyword in some places only. -/
def beginsSoftWord (id : String) : Bool :=
  ["match", "case", "_"].any fun (word : String) => word.startsWith id

/-- Two expressions side by side, or a condition without its other half. -/
def invalidExpression {α : Type} : Reader α := do
  let adjacent ← optional (do
    notAhead ((do let _ ← name; let _ ← ofKind .string)
      <|> (do let _ ← token fun t => t.kind == .name && beginsSoftWord t.text))
    let a ← disjunction' g
    let b ← withoutExplaining (plainExpression g)
    return (a, b))
  match adjacent with
  | some (a, b) =>
    if isLegacy a || (← depthHere) = 0 then absent
    else refuseSpan (a.span.upTo b.span) "invalid syntax. Perhaps you forgot a comma?"
  | none => do
    let a ← disjunction' g
    let _ ← word "if"
    let b ← disjunction' g
    notAhead (word "else" <|> op ":")
    refuseSpan (a.span.upTo b.span) "expected 'else' after 'if' expression"

/-- A call written without brackets, in an older form of the language. -/
def invalidLegacy {α : Type} : Reader α := do
  let start ← here
  let t ← name
  notAhead (op "(")
  let span ← spanSince start
  let e ← g.starExpressions
  if t.text == "print" || t.text == "exec" then
    refuseSpan (span.upTo e.span)
      s!"Missing parentheses in call to '{t.text}'. Did you mean {t.text}(...)?"
  else absent

/-- An expression. -/
def expression' : Reader Expr := remember 4 <|
  whenExplaining (invalidExpression g) <|> whenExplaining (invalidLegacy g) <|> plainExpression g

/-- The mistakes of a named expression. -/
def invalidNamed {α : Type} : Reader α :=
  let notAssign : Reader Unit := notAhead (op "=" <|> op ":=")
  (do
    let a ← expression' g
    let _ ← op ":="
    let _ ← expression' g
    refuseSpan a.span s!"cannot use assignment expressions with {a.description}")
  <|> (do
    let start ← here
    let _ ← name
    let _ ← op "="
    let b ← bitwiseOr' g
    notAssign
    refuseSpan ((← spanSince start).upTo b.span)
      "invalid syntax. Maybe you meant '==' or ':=' instead of '='?")
  <|> (do
    notAhead ((do let _ ← list g) <|> (do let _ ← tuple g) <|> (do let _ ← generator g)
      <|> (do let _ ← word "True") <|> (do let _ ← word "None") <|> (do let _ ← word "False"))
    let a ← bitwiseOr' g
    let _ ← op "="
    let _ ← bitwiseOr' g
    notAssign
    refuseSpan a.span
      s!"cannot assign to {a.description} here. Maybe you meant '==' instead of '='?")

/-- An expression that may bind a name. -/
def namedExpression' : Reader Expr :=
  assignmentExpression g
  <|> whenExplaining (invalidNamed g)
  <|> (do
    let e ← expression' g
    notAhead (op ":=")
    return e)

/-- An expression that may be spread. -/
def starExpression : Reader Expr :=
  (do
    let start ← here
    let _ ← op "*"
    let e ← bitwiseOr' g
    node start (.starred e))
  <|> expression' g

/-- Expressions, as a tuple where a comma stands. -/
def starExpressions' : Reader Expr := do
  let start ← here
  let first ← starExpression g
  let more ← many (do let _ ← op ","; starExpression g)
  let comma ← optional (op ",")
  if more.isEmpty && comma.isNone then return first
  else node start (.tuple (first :: more))

/-- Readers for what is nested too deeply. -/
def beyond : ExprRules :=
  { expression := tooDeep, disjunction := tooDeep, inversion := tooDeep, factor := tooDeep
    bitwiseOr := tooDeep, namedExpression := tooDeep, starExpressions := tooDeep
    starTarget := tooDeep, targetAtom := tooDeep, embedded := fun s => readExplained s tooDeep }

/-- The readers for expressions nested up to a depth. -/
def ofDepth : Nat → ExprRules
  | 0 => beyond
  | depth + 1 =>
    let g := ofDepth depth
    { expression := expression' g
      disjunction := disjunction' g
      inversion := inversion' g
      factor := factor' g
      bitwiseOr := bitwiseOr' g
      namedExpression := namedExpression' g
      starExpressions := starExpressions' g
      starTarget := starTarget' g
      targetAtom := targetAtom' g
      embedded := fun inner => readExplained inner do
        -- nothing may follow an inner text
        let e ← g.starExpressions
        let _ ← optional (ofKind .newline)
        let _ ← ofKind .finish
        return e }

end ExprRules

end SnippetRunner.Snippet
