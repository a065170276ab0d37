import SnippetRunner.Snippet.Grammar.Conditional

/-!
# The grammar of patterns

What a `case` compares a value with: values, names, sequences, mappings and values of classes. The
rules take the reader for smaller patterns as a parameter; it is built by depth.
-/

namespace SnippetRunner.Snippet

open Reader

namespace PatternRules

variable (g : ExprRules) (inner : Reader Pattern)

/-- A pattern with the span since an index. -/
def node (start : Nat) (n : PatternNode) : Reader Pattern := do return .mk (← spanSince start) n

/-- Takes a name that is a word of the language only here. -/
def softWord (text : String) : Reader Token :=
  token fun t => t.kind == .name && t.text == text

/-- What shows that a name is more than a name. -/
def nameGoesOn : Reader Unit := ahead (op "." <|> op "(" <|> op "=")

/-! ## Values -/

/-- A number with a sign if there is one; `part` checks it. -/
def signedNumber (part : Expr → Reader Expr) : Reader Expr :=
  (do part (← ExprRules.number))
  <|> (do
    let start ← here
    let _ ← op "-"
    let e ← part (← ExprRules.number)
    ExprRules.node start (.unary .minus e))

/-- Whether a number is an imaginary one. -/
def isImaginary (e : Expr) : Bool :=
  match e.node with
  | .literal (.imaginary _) => true
  | _ => false

/-- A number that must be real. -/
def realPart (e : Expr) : Reader Expr :=
  if isImaginary e then refuseSpan e.span "real number required in complex literal" else done e

/-- A number that must be imaginary. -/
def imaginaryPart (e : Expr) : Reader Expr :=
  if isImaginary e then done e
  else refuseSpan e.span "imaginary number required in complex literal"

/-- A real and an imaginary number as one. -/
def complexNumber : Reader Expr := do
  let start ← here
  let re ← signedNumber realPart
  let sign ← op "+" <|> op "-"
  let im ← imaginaryPart (← ExprRules.number)
  ExprRules.node start (.binary (if sign.text == "+" then .add else .sub) re im)

/-- A number or a text that is written out. -/
def writtenValue : Reader Expr :=
  (do
    let e ← signedNumber done
    notAhead (op "+" <|> op "-")
    return e)
  <|> complexNumber <|> ExprRules.strings g

/-- One of the values that there is only once. -/
def onlyValue : Reader Literal :=
  (do let _ ← word "None"; return .none)
  <|> (do let _ ← word "True"; return .bool true)
  <|> (do let _ ← word "False"; return .bool false)

/-- A name with attributes of attributes. -/
def dotted (start : Nat) : Nat → Expr → Reader Expr
  | 0, e => done e
  | fuel + 1, e => do
    match ← optional (do let _ ← op "."; name) with
    | none => return e
    | some t => dotted start fuel (← ExprRules.node start (.attribute e t.text))

/-- A name, perhaps with attributes. -/
def nameOrAttribute : Reader Expr := do
  let start ← here
  let t ← name
  dotted start (← size) (← ExprRules.node start (.name t.text))

/-- A name with at least one attribute. -/
def attributeOfName : Reader Expr := do
  let e ← nameOrAttribute
  match e.node with
  | .attribute _ _ => return e
  | _ => absent

/-! ## Names -/

/-- A name that is bound. -/
def captureTarget : Reader String := do
  notAhead (softWord "_")
  let t ← name
  notAhead nameGoesOn
  return t.text

/-- The other items of a sequence. -/
def restPattern : Reader Pattern :=
  (do
    let start ← here
    let _ ← op "*"
    let id ← captureTarget
    node start (.rest (some id)))
  <|> (do
    let start ← here
    let _ ← op "*"
    let _ ← softWord "_"
    node start (.rest none))

/-! ## Sequences -/

/-- An item of a sequence. -/
def item : Reader Pattern := restPattern <|> inner

/-- Items of a sequence. -/
def items : Reader (List Pattern) := do
  let ps ← sepBy1 (item inner) (op ",")
  let _ ← optional (op ",")
  return ps

/-- Items of which the first is followed by a comma. -/
def openItems : Reader (List Pattern) := do
  let first ← item inner
  let _ ← op ","
  return first :: (← optional (items inner)).getD []

/-- A sequence in brackets. -/
def sequencePattern : Reader Pattern :=
  (do
    let start ← here
    let _ ← op "["
    let ps ← optional (items inner)
    let _ ← op "]"
    node start (.sequence (ps.getD [])))
  <|> (do
    let start ← here
    let _ ← op "("
    let ps ← optional (openItems inner)
    let _ ← op ")"
    node start (.sequence (ps.getD [])))

/-! ## Mappings -/

/-- A key of a mapping and the pattern for its value. -/
def entry : Reader (Expr × Pattern) := do
  let key ← writtenValue g
    <|> (do
      let start ← here
      let v ← onlyValue
      ExprRules.node start (.literal v))
    <|> attributeOfName
  let _ ← op ":"
  return (key, ← inner)

/-- The name for the other entries of a mapping. -/
def otherEntries : Reader String := do
  let _ ← op "**"
  captureTarget

/-- A mapping. -/
def mappingPattern : Reader Pattern := do
  let start ← here
  let _ ← op "\x7b"
  (do
    let _ ← op "\x7d"
    node start (.mapping [] none))
  <|> (do
    let others ← otherEntries
    let _ ← optional (op ",")
    let _ ← op "\x7d"
    node start (.mapping [] (some others)))
  <|> (do
    let entries ← sepBy1 (entry g inner) (op ",")
    let _ ← op ","
    let others ← otherEntries
    let _ ← optional (op ",")
    let _ ← op "\x7d"
    node start (.mapping entries (some others)))
  <|> (do
    let entries ← sepBy1 (entry g inner) (op ",")
    let _ ← optional (op ",")
    let _ ← op "\x7d"
    node start (.mapping entries none))

/-! ## Values of classes -/

/-- Patterns for attributes by position. -/
def placed : Reader (List Pattern) := sepBy1 inner (op ",")

/-- Patterns for attributes by name. -/
def keywords : Reader (List (String × Pattern)) :=
  sepBy1 (do
    let t ← name
    let _ ← op "="
    return (t.text, ← inner)) (op ",")

/-- A value of a class. -/
def instancePattern : Reader Pattern :=
  let parts (read : Reader (List Pattern × List (String × Pattern))) : Reader Pattern := do
    let start ← here
    let kind ← nameOrAttribute
    let _ ← op "("
    let (args, named) ← read
    let _ ← op ")"
    node start (.instance_ kind args named)
  parts (done ([], []))
  <|> parts (do
    let args ← placed inner
    let _ ← optional (op ",")
    return (args, []))
  <|> parts (do
    let named ← keywords inner
    let _ ← optional (op ",")
    return ([], named))
  <|> parts (do
    let args ← placed inner
    let _ ← op ","
    let named ← keywords inner
    let _ ← optional (op ",")
    return (args, named))
  <|> whenExplaining (do
    let _ ← nameOrAttribute
    let _ ← op "("
    let _ ← optional (do let _ ← placed inner; op ",")
    let _ ← keywords inner
    let _ ← op ","
    let start ← here
    let _ ← placed inner
    refuseSpan (← spanSince start) "positional patterns follow keyword patterns")

/-! ## Patterns -/

/-- A pattern that ends where it ends. -/
def closed : Reader Pattern := rememberPattern <|
  (do
    let start ← here
    let e ← writtenValue g
    node start (.value e))
  <|> (do
    let start ← here
    let v ← onlyValue
    node start (.only v))
  <|> (do
    let start ← here
    let id ← captureTarget
    node start (.capture (some id)))
  <|> (do
    let start ← here
    let _ ← softWord "_"
    node start (.capture none))
  <|> (do
    let start ← here
    let e ← attributeOfName
    notAhead nameGoesOn
    node start (.value e))
  <|> (do
    let _ ← op "("
    let p ← inner
    let _ ← op ")"
    return p)
  <|> sequencePattern inner <|> mappingPattern g inner <|> instancePattern inner

/-- Patterns of which one suffices. -/
def alternatives : Reader Pattern := do
  let start ← here
  let ps ← sepBy1 (closed g inner) (op "|")
  match ps with
  | [p] => return p
  | ps => node start (.either ps)

/-- A pattern, perhaps with a name for what it takes. -/
def pattern' : Reader Pattern :=
  (do
    let start ← here
    let p ← alternatives g inner
    let _ ← word "as"
    let id ← captureTarget
    node start (.named p id))
  <|> whenExplaining (
    (do
      let _ ← alternatives g inner
      let _ ← word "as"
      let t ← softWord "_"
      refuseToken t "cannot use '_' as a target")
    <|> (do
      let _ ← alternatives g inner
      let _ ← word "as"
      notAhead name
      let e ← g.expression
      refuseSpan e.span "invalid pattern target"))
  <|> alternatives g inner

/-- A pattern that is nested up to a depth. -/
def ofDepth : Nat → Reader Pattern
  | 0 => tooDeep
  | depth + 1 => pattern' g (ofDepth depth)

/-- What stands after `case`: a pattern, or a sequence without brackets. -/
def patterns (depth : Nat) : Reader Pattern :=
  (do
    let start ← here
    let ps ← openItems (ofDepth g depth)
    node start (.sequence ps))
  <|> ofDepth g depth

end PatternRules

end SnippetRunner.Snippet
