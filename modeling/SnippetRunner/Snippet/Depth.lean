import SnippetRunner.Snippet.Tree

/-!
# How deep a program goes

Every statement and every expression is one step deeper than what it stands in. A program that
goes too deep is refused before anything else about it is checked.
-/

namespace SnippetRunner.Snippet

mutual

/-- How deep an expression goes. -/
def Expr.depth : Expr → Nat
  | .mk _ node =>
    1 + match node with
      | .literal _ | .name _ => 0
      | .tuple items | .list items | .set items | .boolean _ items => exprsDepth items
      | .mapping entries => entriesDepth entries
      | .attribute value _ => value.depth
      | .subscript value index => max value.depth index.depth
      | .slice lower upper step =>
        max (optionDepth lower) (max (optionDepth upper) (optionDepth step))
      | .call function args => max function.depth (argumentsDepth args)
      | .starred value | .unary _ value | .assignment _ _ value => value.depth
      | .binary _ left right => max left.depth right.depth
      | .compare first rest => max first.depth (comparisonsDepth rest)
      | .conditional test yes no => max test.depth (max yes.depth no.depth)
      | .lambda params body => max params.depth body.depth
      | .comprehension _ item value clauses =>
        max (max item.depth (optionDepth value)) (clausesDepth clauses)
      | .joined pieces => piecesDepth pieces
      | .yield value => optionDepth value
      | .yieldFrom value | .await value | .quoted value => value.depth

/-- How deep the deepest of several expressions goes. -/
def exprsDepth : List Expr → Nat
  | [] => 0
  | e :: rest => max e.depth (exprsDepth rest)

/-- How deep an expression that may be left out goes. -/
def optionDepth : Option Expr → Nat
  | none => 0
  | some e => e.depth

/-- How deep the entries of a mapping go. -/
def entriesDepth : List (Option Expr × Expr) → Nat
  | [] => 0
  | (key, value) :: rest => max (max (optionDepth key) value.depth) (entriesDepth rest)

/-- How deep the arguments of a call go. -/
def argumentsDepth : List Argument → Nat
  | [] => 0
  | .positional e :: rest | .spread e :: rest | .keyword _ _ e :: rest
  | .spreadKeywords e :: rest => max e.depth (argumentsDepth rest)

/-- How deep the right-hand sides of comparisons go. -/
def comparisonsDepth : List (CompareOp × Expr) → Nat
  | [] => 0
  | (_, e) :: rest => max e.depth (comparisonsDepth rest)

/-- How deep the clauses of a comprehension go. -/
def clausesDepth : List Clause → Nat
  | [] => 0
  | .mk _ target iterable conditions :: rest =>
    max (max target.depth iterable.depth) (max (exprsDepth conditions) (clausesDepth rest))

/-- How deep the values embedded in a text go. -/
def piecesDepth : List Piece → Nat
  | [] => 0
  | .text _ :: rest => piecesDepth rest
  | .value e _ format :: rest => max (max e.depth (piecesDepth format)) (piecesDepth rest)

/-- How deep the default values of parameters go. -/
def Parameters.depth : Parameters → Nat
  | .mk positionalOnly regular _ keywordOnly _ =>
    max (parametersDepth positionalOnly)
      (max (parametersDepth regular) (parametersDepth keywordOnly))

/-- How deep the default values of parameters in a row go. -/
def parametersDepth : List Parameter → Nat
  | [] => 0
  | .mk _ _ _ default :: rest => max (optionDepth default) (parametersDepth rest)

end

/-- How deep the items of a `with` statement go. -/
def itemsDepth (items : List (Expr × Option Expr)) : Nat :=
  items.foldl (fun n (e, target) => max n (max e.depth (optionDepth target))) 0

mutual

/-- How deep a pattern goes. -/
def Pattern.depth : Pattern → Nat
  | .mk _ node =>
    1 + match node with
      | .value e => e.depth
      | .only _ | .capture _ | .rest _ => 0
      | .named pattern _ => pattern.depth
      | .either patterns | .sequence patterns => patternsDepth patterns
      | .mapping entries _ => entriesPatternDepth entries
      | .instance_ kind args keywords =>
        max kind.depth (max (patternsDepth args) (keywordsPatternDepth keywords))

/-- How deep the deepest of several patterns goes. -/
def patternsDepth : List Pattern → Nat
  | [] => 0
  | p :: rest => max p.depth (patternsDepth rest)

/-- How deep the keys and patterns of a mapping's entries go. -/
def entriesPatternDepth : List (Expr × Pattern) → Nat
  | [] => 0
  | (key, p) :: rest => max (max key.depth p.depth) (entriesPatternDepth rest)

/-- How deep patterns with names go. -/
def keywordsPatternDepth : List (String × Pattern) → Nat
  | [] => 0
  | (_, p) :: rest => max p.depth (keywordsPatternDepth rest)

end

mutual

/-- How deep a statement goes. -/
def Stmt.depth : Stmt → Nat
  | .mk _ node =>
    1 + match node with
      | .pass | .break_ | .continue_ | .global _ | .nonlocal _ | .import_ _
      | .importFrom _ _ _ => 0
      | .expression e => e.depth
      | .assign targets value => max (exprsDepth targets) value.depth
      | .annotated target hint value _ => max (max target.depth hint.depth) (optionDepth value)
      | .augmented target _ value => max target.depth value.depth
      | .return_ value => optionDepth value
      | .raise error cause => max (optionDepth error) (optionDepth cause)
      | .assert test message => max test.depth (optionDepth message)
      | .delete targets => exprsDepth targets
      | .if_ test body orElse | .while_ test body orElse =>
        max test.depth (max (stmtsDepth body) (stmtsDepth orElse))
      | .for_ target iterable body orElse | .asyncFor target iterable body orElse =>
        max (max target.depth iterable.depth) (max (stmtsDepth body) (stmtsDepth orElse))
      | .try_ body handlers orElse final | .tryStar body handlers orElse final =>
        max (max (stmtsDepth body) (handlersDepth handlers))
          (max (stmtsDepth orElse) (stmtsDepth final))
      | .with_ items body | .asyncWith items body => max (itemsDepth items) (stmtsDepth body)
      | .match_ subject cases => max subject.depth (casesDepth cases)
      | .function _ _ params returns body decorators =>
        max (max params.depth (optionDepth returns))
          (max (stmtsDepth body) (exprsDepth decorators))
      | .class_ _ args body decorators =>
        max (argumentsDepth args) (max (stmtsDepth body) (exprsDepth decorators))

/-- How deep the deepest of several statements goes. -/
def stmtsDepth : List Stmt → Nat
  | [] => 0
  | s :: rest => max s.depth (stmtsDepth rest)

/-- How deep the handlers of a `try` go. -/
def handlersDepth : List Handler → Nat
  | [] => 0
  | .mk _ kind _ body :: rest =>
    max (max (optionDepth kind) (stmtsDepth body)) (handlersDepth rest)

/-- How deep the cases of a `match` go. -/
def casesDepth : List Case → Nat
  | [] => 0
  | .mk pattern guard body :: rest =>
    max (max pattern.depth (optionDepth guard)) (max (stmtsDepth body) (casesDepth rest))

end

/-- How deep a program may go. -/
def deepestProgram : Nat := 2980

end SnippetRunner.Snippet
