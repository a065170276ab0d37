import SnippetRunner.Number.Shortest
import SnippetRunner.Snippet.Tree
import SnippetRunner.Text.Quoted

/-!
# The spelling of expressions

An expression as text, with one blank around operators and no more parentheses than it needs. A
type hint is kept in this form.
-/

namespace SnippetRunner.Snippet

/-- How tightly the parts of an expression hold together. -/
inductive Tightness where
  | tuple | test | or | and | not | compare | bitOr | bitXor | bitAnd | shift | sum | product
  | sign | power | await | atom
  deriving Repr, DecidableEq

/-- The next tighter one. -/
def Tightness.tighter : Tightness → Tightness
  | .tuple => .test | .test => .or | .or => .and | .and => .not | .not => .compare
  | .compare => .bitOr | .bitOr => .bitXor | .bitXor => .bitAnd | .bitAnd => .shift
  | .shift => .sum | .sum => .product | .product => .sign | .sign => .power | .power => .await
  | .await => .atom | .atom => .atom

/-- The tightness of an operator between two values. -/
def BinaryOp.tightness : BinaryOp → Tightness
  | .add | .sub => .sum
  | .mul | .matMul | .div | .floorDiv | .mod => .product
  | .pow => .power
  | .leftShift | .rightShift => .shift
  | .bitOr => .bitOr
  | .bitXor => .bitXor
  | .bitAnd => .bitAnd

/-- How an operator before a value is written. -/
def UnaryOp.symbol : UnaryOp → String
  | .not => "not " | .plus => "+" | .minus => "-" | .invert => "~"

/-- The tightness of an operator before a value. -/
def UnaryOp.tightness : UnaryOp → Tightness
  | .not => .not
  | _ => .sign

/-- A text in parentheses, where what is around it holds together more tightly. -/
def inParens (around own : Tightness) (s : String) : String :=
  if own.ctorIdx < around.ctorIdx then "(" ++ s ++ ")" else s

/-- The digits of a float; an infinite one is a number that is too large. -/
def spellFloat (x : Float) : String := (Number.floatText x).replace "inf" "1e309"

/-- A literal as text. -/
def Literal.spelled : Literal → String
  | .none => "None"
  | .bool b => if b then "True" else "False"
  | .int n => toString n
  | .float x => spellFloat x
  | .imaginary x =>
    let digits := (spellFloat x).toList
    String.ofList (if ['.', '0'].isSuffixOf digits then digits.dropLast.dropLast else digits) ++ "j"
  | .text s => Text.quoted s
  | .bytes bs => Text.quotedBytes bs
  | .ellipsis => "..."

/-- A text between embedded values, with its braces doubled. -/
def doubleBraces (s : String) : String :=
  String.join (s.toList.map fun c => if c == '{' || c == '}' then s!"{c}{c}" else c.toString)

mutual

/-- An expression as text inside something of the given tightness. -/
def Expr.spelledIn (around : Tightness) : Expr → String
  | .mk _ node =>
    match node with
    | .literal l => l.spelled
    | .name id => id
    | .tuple [] => "()"
    | .tuple [item] => inParens around .tuple (item.spelledIn .test ++ ",")
    | .tuple items => inParens around .tuple (String.intercalate ", " (spelledAll .test items))
    | .list items => "[" ++ String.intercalate ", " (spelledAll .test items) ++ "]"
    | .set items => "\x7b" ++ String.intercalate ", " (spelledAll .test items) ++ "\x7d"
    | .mapping entries => "\x7b" ++ String.intercalate ", " (spelledEntries entries) ++ "\x7d"
    | .attribute value attr =>
      let dot := match value with
        | .mk _ (.literal (.int _)) => " ."
        | _ => "."
      value.spelledIn .atom ++ dot ++ attr
    | .subscript value index => value.spelledIn .atom ++ "[" ++ index.spelledIn .tuple ++ "]"
    | .slice lower upper step =>
      let third := match step with
        | some e => ":" ++ e.spelledIn .test
        | none => ""
      spelledOption lower ++ ":" ++ spelledOption upper ++ third
    | .call function [.positional (.mk span (.comprehension .generator item value clauses))] =>
      function.spelledIn .atom
        ++ Expr.spelledIn .atom (.mk span (.comprehension .generator item value clauses))
    | .call function args =>
      function.spelledIn .atom ++ "(" ++ String.intercalate ", " (spelledArguments args) ++ ")"
    | .starred value => "*" ++ value.spelledIn .bitOr
    | .unary op value =>
      inParens around op.tightness (op.symbol ++ value.spelledIn op.tightness)
    | .binary op left right =>
      let own := op.tightness
      let (forLeft, forRight) := if op == .pow then (own.tighter, own) else (own, own.tighter)
      inParens around own
        (left.spelledIn forLeft ++ " " ++ op.symbol ++ " " ++ right.spelledIn forRight)
    | .compare first rest =>
      inParens around .compare (first.spelledIn .bitOr ++ String.join (spelledComparisons rest))
    | .boolean conjunction values =>
      let own : Tightness := if conjunction then .and else .or
      inParens around own (String.intercalate (if conjunction then " and " else " or ")
        (spelledAll own.tighter values))
    | .conditional test yes no =>
      inParens around .test
        (yes.spelledIn .or ++ " if " ++ test.spelledIn .or ++ " else " ++ no.spelledIn .test)
    | .lambda params body =>
      inParens around .test ("lambda" ++ params.spelled ++ ": " ++ body.spelledIn .test)
    | .comprehension kind item value clauses =>
      let (opening, closing) := match kind with
        | .list => ("[", "]")
        | .generator => ("(", ")")
        | _ => ("\x7b", "\x7d")
      let entry := match value with
        | some e => ": " ++ e.spelledIn .test
        | none => ""
      opening ++ item.spelledIn .test ++ entry ++ String.join (spelledClauses clauses) ++ closing
    | .joined pieces => "f" ++ Text.quoted (String.join (spelledPieces pieces))
    | .assignment id _ value =>
      inParens around .tuple (id ++ " := " ++ value.spelledIn .atom)
    | .yield none => "(yield)"
    | .yield (some e) => "(yield " ++ e.spelledIn .test ++ ")"
    | .yieldFrom e => "(yield from " ++ e.spelledIn .test ++ ")"
    | .await e => inParens around .await ("await " ++ e.spelledIn .atom)
    | .quoted e => e.spelledIn around

/-- Expressions in a row as texts. -/
def spelledAll (around : Tightness) : List Expr → List String
  | [] => []
  | e :: rest => e.spelledIn around :: spelledAll around rest

/-- An expression that may be left out. -/
def spelledOption : Option Expr → String
  | none => ""
  | some e => e.spelledIn .test

/-- The entries of a mapping as texts. -/
def spelledEntries : List (Option Expr × Expr) → List String
  | [] => []
  | (some key, value) :: rest =>
    (key.spelledIn .test ++ ": " ++ value.spelledIn .test) :: spelledEntries rest
  | (none, value) :: rest => ("**" ++ value.spelledIn .bitOr) :: spelledEntries rest

/-- The arguments of a call as texts. -/
def spelledArguments : List Argument → List String
  | [] => []
  | .positional e :: rest => e.spelledIn .test :: spelledArguments rest
  | .spread e :: rest => ("*" ++ e.spelledIn .bitOr) :: spelledArguments rest
  | .keyword _ id e :: rest => (id ++ "=" ++ e.spelledIn .test) :: spelledArguments rest
  | .spreadKeywords e :: rest => ("**" ++ e.spelledIn .test) :: spelledArguments rest

/-- The right-hand sides of comparisons as texts. -/
def spelledComparisons : List (CompareOp × Expr) → List String
  | [] => []
  | (op, e) :: rest => (" " ++ op.symbol ++ " " ++ e.spelledIn .bitOr) :: spelledComparisons rest

/-- The clauses of a comprehension as texts. -/
def spelledClauses : List Clause → List String
  | [] => []
  | .mk awaits target iterable conditions :: rest =>
    ((if awaits then " async for " else " for ") ++ target.spelledIn .tuple ++ " in " ++ iterable.spelledIn .or
      ++ String.join (spelledConditions conditions)) :: spelledClauses rest

/-- The conditions of a clause as texts. -/
def spelledConditions : List Expr → List String
  | [] => []
  | e :: rest => (" if " ++ e.spelledIn .or) :: spelledConditions rest

/-- The pieces of a text with embedded values. -/
def spelledPieces : List Piece → List String
  | [] => []
  | .text s :: rest => doubleBraces s :: spelledPieces rest
  | .value e conversion format :: rest =>
    let text := e.spelledIn .or
    let blank := if text.startsWith "\x7b" then " " else ""
    let shown := match conversion with
      | some c => "!" ++ c.toString
      | none => ""
    let layout := String.join (spelledPieces format)
    ("\x7b" ++ blank ++ text ++ shown ++ (if format.isEmpty then "" else ":" ++ layout) ++ "\x7d")
      :: spelledPieces rest

/-- The parameters of a `lambda`; a blank comes before the first one if that has a position. -/
def Parameters.spelled : Parameters → String
  | .mk positionalOnly regular rest keywordOnly keywords =>
    let before := spelledParameters positionalOnly
    let bar := if before.isEmpty then [] else ["/"]
    let star := match rest with
      | some p => ["*" ++ p.spelled]
      | none => if keywordOnly.isEmpty then [] else ["*"]
    let collected := match keywords with
      | some p => ["**" ++ p.spelled]
      | none => []
    (if positionalOnly.isEmpty && regular.isEmpty then "" else " ")
      ++ String.intercalate ", " (before ++ bar ++ spelledParameters regular ++ star
        ++ spelledParameters keywordOnly ++ collected)

/-- A parameter with its default value. -/
def Parameter.spelled : Parameter → String
  | .mk id _ _ none => id
  | .mk id _ _ (some e) => id ++ "=" ++ e.spelledIn .test

/-- Parameters in a row as texts. -/
def spelledParameters : List Parameter → List String
  | [] => []
  | p :: rest => p.spelled :: spelledParameters rest

end

/-- An expression as text. -/
def Expr.spelled (e : Expr) : String := e.spelledIn .test

end SnippetRunner.Snippet
