import SnippetRunner.Snippet.Grammar.Statement

/-!
# Reading a program

The statements of a source text, or the reason why it is no program.
-/

namespace SnippetRunner.Snippet

/-- How deeply expressions may be nested in a source of the given size. -/
def nestingLimit (size : Nat) : Nat := min (size + 10) 5970

/-- How deeply blocks may be nested; indentation goes no deeper than a hundred levels. -/
def indentationLimit : Nat := 110

/-- What is complained about a source with a character that no source may have. -/
def zeroComplaint : String := "source code string cannot contain null bytes"

/-- The statements of a source; `quotes` tells whether its type hints stand for their own text. -/
def readProgram (source : String) (quotes : Bool := true) : Except Refusal (List Stmt) :=
  let g := ExprRules.ofDepth (nestingLimit source.length)
  readExplained { tokens := Tokens.ofString source, quotes }
    (StmtRules.ofDepth g indentationLimit).file

/-- The expression that a text consists of, on lines of its own. -/
def readSingle (source : String) : Except Refusal Expr :=
  let g := ExprRules.ofDepth (nestingLimit source.length)
  readExplained { tokens := Tokens.ofString source } do
    let start ← Reader.here
    let items ← Reader.sepBy1 g.expression (Reader.op ",")
    let comma ← Reader.optional (Reader.op ",")
    let _ ← Reader.many (Reader.ofKind .newline)
    let _ ← Reader.ofKind .finish
    match items, comma with
    | [e], none => return e
    | _, _ => ExprRules.node start (.tuple items)

/-- A source that is one expression on its own. -/
def readExpression? (source : String) : Option Expr :=
  match readProgram source with
  | .ok [.mk _ (.expression e)] => some e
  | _ => none

end SnippetRunner.Snippet
