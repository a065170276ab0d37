import SnippetRunner.Snippet.Grammar.Expression

/-!
# The grammar of parameters

The parameters of a function between its brackets, or of a lambda before its colon: those that
only a position fills, then the ordinary ones, then those that only a name fills. A parameter
with a default may not stand before one without.
-/

namespace SnippetRunner.Snippet

open Reader

/-- How a list of parameters is written. -/
structure ParameterStyle where
  /-- What ends the list. -/
  close : String
  /-- Whether parameters may carry type hints. -/
  hinted : Bool

namespace ExprRules

variable (g : ExprRules) (style : ParameterStyle)

/-- What follows a parameter: a comma, or the end of the list, which stays. -/
def parameterEnd : Reader Unit := (do let _ ← op ","; return ()) <|> ahead (op style.close)

/-- A parameter's name and type hint. -/
def bareParameter : Reader Parameter := do
  let start ← here
  let t ← name
  let hint ← if style.hinted then optional (do let _ ← op ":"; Reader.hint g.expression)
    else done none
  return .mk t.text (← spanSince start) hint none

/-- A default value. -/
def defaultValue : Reader Expr :=
  (do let _ ← op "="; g.expression)
  <|> whenExplaining (do
    let t ← op "="
    ahead (op style.close <|> op ",")
    refuseSpan (← tokenSpan t) "expected default value expression")

/-- A parameter without default. -/
def plainParameter : Reader Parameter := do
  let p ← bareParameter g style
  parameterEnd style
  return p

/-- A parameter with a default. -/
def defaultParameter : Reader Parameter := do
  let .mk id span hint _ ← bareParameter g style
  let value ← defaultValue g style
  parameterEnd style
  return .mk id span hint (some value)

/-- A parameter with or without default. -/
def anyParameter : Reader Parameter := defaultParameter g style <|> plainParameter g style

/-- Parameters by position, those with defaults last. -/
def positionalParameters (defaultsOnly : Bool) : Reader (List Parameter) := do
  let plain ← if defaultsOnly then done [] else many (plainParameter g style)
  let others ← many (defaultParameter g style)
  return plain ++ others

/-- The mark after parameters that only a position fills. -/
def slash : Reader Unit := do
  let _ ← op "/"
  parameterEnd style

/-- The mistakes after `**`. -/
def invalidKeywords {α : Type} : Reader α :=
  (do
    let _ ← op "**"
    let _ ← bareParameter g style
    let t ← op "="
    refuseSpan (← tokenSpan t) "var-keyword argument cannot have default value")
  <|> (do
    let _ ← op "**"
    let _ ← bareParameter g style
    let _ ← op ","
    let p ← bareParameter g style
    refuseSpan p.span "arguments cannot follow var-keyword argument")
  <|> (do
    let _ ← op "**"
    let _ ← bareParameter g style
    let _ ← op ","
    let t ← op "*" <|> op "**" <|> op "/"
    refuseSpan (← tokenSpan t) "arguments cannot follow var-keyword argument")

/-- The parameter for the other named arguments. -/
def keywordsParameter : Reader Parameter :=
  whenExplaining (invalidKeywords g style)
  <|> (do let _ ← op "**"; plainParameter g style)

/-- The mistakes after `*`. -/
def invalidStar {α : Type} : Reader α :=
  (do
    let t ← op "*"
    let _ ← op style.close <|> (do let _ ← op ","; op style.close <|> op "**")
    let message := "named arguments must follow bare *"
    if style.close == ":" then refuseHere message else refuseSpan (← tokenSpan t) message)
  <|> (do
    let _ ← op "*"
    let _ ← bareParameter g style
    let t ← op "="
    refuseSpan (← tokenSpan t) "var-positional argument cannot have default value")
  <|> (do
    let _ ← op "*"
    (do let _ ← plainParameter g style) <|> (do let _ ← op ",")
    let _ ← many (anyParameter g style)
    let t ← op "*"
    (do let _ ← plainParameter g style) <|> (do let _ ← op ",")
    refuseSpan (← tokenSpan t) "* argument may appear only once")

/-- The parameters from a star on: the one for the other positions, those that only a name
fills, and the one for the other names. -/
def starParameters : Reader (Option Parameter × List Parameter × Option Parameter) :=
  whenExplaining (invalidStar g style)
  <|> (do
    let _ ← op "*"
    let p ← plainParameter g style
    let named ← many (anyParameter g style)
    return (some p, named, ← optional (keywordsParameter g style)))
  <|> (do
    let _ ← op "*"
    let _ ← op ","
    let named ← many1 (anyParameter g style)
    return (none, named, ← optional (keywordsParameter g style)))
  <|> (do return (none, [], some (← keywordsParameter g style)))

/-- The mistakes in a list of parameters. -/
def invalidParameters {α : Type} : Reader α :=
  (do
    let _ ← many (plainParameter g style)
    (do
      let _ ← many1 (defaultParameter g style)
      slash style)
      <|> (do let _ ← many1 (defaultParameter g style))
    let p ← plainParameter g style
    refuseSpan p.span "non-default argument follows default argument")
  <|> (do
    let _ ← many (plainParameter g style)
    let start ← here
    let _ ← op "("
    if style.hinted then let _ ← many1 (plainParameter g style)
    else let _ ← sepBy1 (bareParameter g style) (op ",")
    let _ ← optional (op ",")
    let _ ← op ")"
    refuseSpan (← spanSince start)
      (if style.hinted then "Function parameters cannot be parenthesized"
      else "Lambda expression parameters cannot be parenthesized"))
  <|> (do
    let t ← op "/"
    let _ ← op ","
    refuseSpan (← tokenSpan t) "at least one argument must precede /")
  <|> (do
    let _ ← many1 (anyParameter g style)
    slash style
    let _ ← many (anyParameter g style)
    let t ← op "/"
    refuseSpan (← tokenSpan t) "/ may appear only once")
  <|> (do
    let _ ← optional (do let _ ← many1 (anyParameter g style); slash style)
    let _ ← many (anyParameter g style)
    let _ ← op "*"
    (do let _ ← op ",") <|> (do let _ ← plainParameter g style)
    let _ ← many (anyParameter g style)
    let t ← op "/"
    refuseSpan (← tokenSpan t) "/ must be ahead of *")
  <|> (do
    let _ ← many1 (anyParameter g style)
    let _ ← op "/"
    let t ← op "*"
    refuseSpan (← tokenSpan t) "expected comma between / and *")

/-- All parameters of a function. -/
def parameters : Reader Parameters :=
  whenExplaining (invalidParameters g style)
  <|> (do
    let first ← positionalParameters g style false
    let slashed ← if first.isEmpty then done none else optional (slash style)
    let withDefaults := first.any fun p => p.default.isSome
    let second ← match slashed with
      | some () => positionalParameters g style withDefaults
      | none => done []
    let star ← optional (starParameters g style)
    if first.isEmpty && star.isNone then absent
    else
      let (rest, named, keywords) := star.getD (none, [], none)
      match slashed with
      | some () => return .mk first second rest named keywords
      | none => return .mk [] first rest named keywords)

end ExprRules

end SnippetRunner.Snippet
