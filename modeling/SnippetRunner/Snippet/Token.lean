/-!
# Tokens

The words of a source text with their places. Each token also records where reading stood after
it, because the place of an error depends on how far the text had been read.

A refusal says why a source text is no program and where: a line, columns within a line counted
from one, and the text to show. A refusal that is found after the text has been read shows no
text.
-/

namespace SnippetRunner.Snippet

/-- The kinds of refusal. -/
inductive RefusalKind where
  | grammar
  | indentation
  | tabs
  /-- The words are nested too deeply to be read. -/
  | exhausted
  deriving Repr, DecidableEq

/-- The name under which a refusal is reported. -/
def RefusalKind.name : RefusalKind → String
  | .grammar => "SyntaxError"
  | .indentation => "IndentationError"
  | .tabs => "TabError"
  | .exhausted => "MemoryError"

/-- A refused source. -/
structure Refusal where
  kind : RefusalKind := .grammar
  message : String
  line : Nat
  offset : Int
  text : Option String
  endLine : Nat
  endOffset : Int
  deriving Repr

/-- A stretch of source: lines from one on, columns in bytes from zero on. -/
structure Span where
  line : Nat
  column : Nat
  endLine : Nat
  endColumn : Nat
  deriving Repr, DecidableEq, Inhabited

/-- The stretch from the start of one to the end of another. -/
def Span.upTo (first last : Span) : Span := { first with
  endLine := last.endLine
  endColumn := last.endColumn }

/-- The number of characters in the first `n` bytes of a text, a broken character counting as
one; past the end, one more than the text has. -/
def charsInBytes (n : Nat) : List Char → Nat
  | [] => if n = 0 then 0 else 1
  | c :: rest => if n = 0 then 0 else 1 + charsInBytes (n - c.utf8Size) rest

/-- The classes of tokens. -/
inductive TokenKind where
  | name
  | keyword
  | number
  | string
  | operator
  /-- A character that belongs to no token. -/
  | unknown
  | newline
  | indent
  | dedent
  | finish
  deriving Repr, DecidableEq, Inhabited

/-- One word of a source. Tokens without characters have no columns. -/
structure Token where
  kind : TokenKind
  text : String
  line : Nat
  column : Option Nat
  endLine : Nat
  endColumn : Option Nat
  /-- How many brackets are open after it. -/
  depth : Nat
  /-- The line and the column where reading stood after it. -/
  readLine : Nat
  readColumn : Nat
  /-- The first line of the text shown for an error here. -/
  shownLine : Nat
  deriving Repr, Inhabited

/-- The stretch of a token. -/
def Token.span (t : Token) : Span := ⟨t.line, t.column.getD 0, t.endLine, t.endColumn.getD 0⟩

/-- Words that are no names. -/
def keywords : List String :=
  ["False", "None", "True", "and", "as", "assert", "async", "await", "break", "class",
    "continue", "def", "del", "elif", "else", "except", "finally", "for", "from", "global",
    "if", "import", "in", "is", "lambda", "nonlocal", "not", "or", "pass", "raise", "return",
    "try", "while", "with", "yield"]

/-- Operators of three characters. -/
def longOperators : List String := ["**=", "//=", "<<=", ">>=", "..."]

/-- Operators of two characters. -/
def pairOperators : List String :=
  ["!=", "%=", "&=", "**", "*=", "+=", "-=", "->", "//", "/=", ":=", "<<", "<=", "<>", "==",
    ">=", ">>", "@=", "^=", "|="]

/-- Operators of one character. -/
def singleOperators : List Char :=
  ['%', '&', '(', ')', '*', '+', ',', '-', '.', '/', ':', ';', '<', '=', '>', '@', '[', ']',
    '^', '\x7b', '|', '\x7d', '~']

/-- The lines of a source with uniform endings, each without its ending. The last line always
ends. -/
structure SourceText where
  lines : Array String
  deriving Inhabited

/-- Line endings as single newlines. -/
def unifyBreaks : List Char → List Char
  | [] => []
  | '\r' :: '\n' :: rest => '\n' :: unifyBreaks rest
  | '\r' :: rest => '\n' :: unifyBreaks rest
  | c :: rest => c :: unifyBreaks rest

/-- Lines without their endings; `line` holds the current one, last character first. -/
def cutLines (line : List Char) : List Char → List (List Char)
  | [] => if line.isEmpty then [] else [line.reverse]
  | '\n' :: rest => line.reverse :: cutLines [] rest
  | c :: rest => cutLines (c :: line) rest

/-- The lines of a source text. -/
def SourceText.ofString (s : String) : SourceText :=
  ⟨((cutLines [] (unifyBreaks s.toList)).map String.ofList).toArray⟩

namespace SourceText

/-- A line by its number from one on. -/
def line (src : SourceText) (n : Nat) : String := src.lines.getD (n - 1) ""

/-- The lines from one number to another, each with its ending. -/
def block (src : SourceText) (first last : Nat) : String :=
  String.join ((List.range (last + 1 - first)).map fun k => src.line (first + k) ++ "\n")

/-- The text shown for an error on a line when reading stands as after a token. -/
def shown (src : SourceText) (after : Token) (line : Nat) : String :=
  if after.readLine ≤ line ∧ after.readLine ≠ 0 then src.block after.shownLine after.readLine
  else src.line line

/-- A refusal at a known place, in columns of bytes counted from one; a negative end column is
left as it is. -/
def refuse (src : SourceText) (after : Token) (kind : RefusalKind) (message : String)
    (line : Nat) (column : Nat) (endLine : Nat) (endColumn : Int) : Refusal :=
  let text := src.shown after line
  let chars := text.toList
  { kind, message, line, text := some text, endLine
    offset := charsInBytes column chars
    endOffset := if 0 < endColumn then charsInBytes endColumn.toNat chars else endColumn }

/-- A refusal of a stretch of source. -/
def refuseSpan (src : SourceText) (after : Token) (kind : RefusalKind) (message : String)
    (span : Span) : Refusal :=
  src.refuse after kind message span.line (span.column + 1) span.endLine (span.endColumn + 1)

/-- A refusal of a token. -/
def refuseToken (src : SourceText) (after : Token) (kind : RefusalKind) (message : String)
    (t : Token) : Refusal :=
  let column := match t.column with
    | some c => c + 1
    | none => 0
  let endColumn : Int := match t.endColumn with
    | some c => c + 1
    | none => 0
  src.refuse after kind message t.line column t.endLine endColumn

/-- A refusal at the place where reading stands after a token. -/
def refuseHere (src : SourceText) (after : Token) (kind : RefusalKind) (message : String) :
    Refusal :=
  let column := match after.column with
    | some c => c + 1
    | none => after.readColumn
  let endColumn : Int := match after.endColumn with
    | some c => c + 1
    | none => -1
  src.refuse after kind message after.line column after.endLine endColumn

end SourceText

end SnippetRunner.Snippet
