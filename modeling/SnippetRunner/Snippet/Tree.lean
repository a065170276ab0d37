import SnippetRunner.Snippet.Token

/-!
# Programs as trees

What a snippet says once its words are put together: expressions and statements, each with its
stretch of source.
-/

namespace SnippetRunner.Snippet

/-- Operators between two values. -/
inductive BinaryOp where
  | add | sub | mul | matMul | div | floorDiv | mod | pow
  | leftShift | rightShift | bitOr | bitXor | bitAnd
  deriving Repr, DecidableEq, Inhabited

/-- How an operator is written. -/
def BinaryOp.symbol : BinaryOp → String
  | .add => "+" | .sub => "-" | .mul => "*" | .matMul => "@" | .div => "/" | .floorDiv => "//"
  | .mod => "%" | .pow => "**" | .leftShift => "<<" | .rightShift => ">>" | .bitOr => "|"
  | .bitXor => "^" | .bitAnd => "&"

/-- Operators before a value. -/
inductive UnaryOp where
  | not | plus | minus | invert
  deriving Repr, DecidableEq, Inhabited

/-- Operators that compare two values. -/
inductive CompareOp where
  | less | lessEqual | greater | greaterEqual | equal | notEqual | isIn | isNotIn | same | notSame
  deriving Repr, DecidableEq, Inhabited

/-- How a comparison is written. -/
def CompareOp.symbol : CompareOp → String
  | .less => "<" | .lessEqual => "<=" | .greater => ">" | .greaterEqual => ">="
  | .equal => "==" | .notEqual => "!=" | .isIn => "in" | .isNotIn => "not in"
  | .same => "is" | .notSame => "is not"

/-- Values that are written out. -/
inductive Literal where
  | none
  | bool (b : Bool)
  | int (n : Int)
  | float (x : Float)
  | imaginary (x : Float)
  | text (s : String)
  | bytes (bs : List UInt8)
  | ellipsis
  deriving Inhabited

/-- What a comprehension builds. -/
inductive ComprehensionKind where
  | list | set | mapping | generator
  deriving Repr, DecidableEq, Inhabited

/-- The name under which a comprehension's frame is reported. -/
def ComprehensionKind.frameName : ComprehensionKind → String
  | .list => "<listcomp>" | .set => "<setcomp>" | .mapping => "<dictcomp>"
  | .generator => "<genexpr>"

mutual

/-- An expression and its place. -/
inductive Expr where
  | mk (span : Span) (node : ExprNode)

/-- What an expression says. -/
inductive ExprNode where
  | literal (value : Literal)
  | name (id : String)
  | tuple (items : List Expr)
  | list (items : List Expr)
  | set (items : List Expr)
  /-- Entries; one without a key spreads a mapping. -/
  | mapping (entries : List (Option Expr × Expr))
  | attribute (value : Expr) (attr : String)
  | subscript (value index : Expr)
  | slice (lower upper step : Option Expr)
  | call (function : Expr) (args : List Argument)
  | starred (value : Expr)
  | unary (op : UnaryOp) (value : Expr)
  | binary (op : BinaryOp) (left right : Expr)
  | compare (first : Expr) (rest : List (CompareOp × Expr))
  /-- A conjunction or a disjunction. -/
  | boolean (conjunction : Bool) (values : List Expr)
  | conditional (test yes no : Expr)
  | lambda (params : Parameters) (body : Expr)
  | comprehension (kind : ComprehensionKind) (item : Expr) (value : Option Expr)
      (clauses : List Clause)
  | joined (pieces : List Piece)
  | assignment (id : String) (idSpan : Span) (value : Expr)
  | yield (value : Option Expr)
  | yieldFrom (value : Expr)
  | await (value : Expr)
  /-- An expression that stands for its own text, as type hints do. -/
  | quoted (value : Expr)

/-- An argument of a call. -/
inductive Argument where
  | positional (value : Expr)
  | spread (value : Expr)
  | keyword (span : Span) (id : String) (value : Expr)
  | spreadKeywords (value : Expr)

/-- One `for` of a comprehension, with its conditions; `awaits` tells whether it waits for each of
its items. -/
inductive Clause where
  | mk (awaits : Bool) (target iterable : Expr) (conditions : List Expr)

/-- A piece of a text with embedded values. -/
inductive Piece where
  | text (s : String)
  /-- A value, perhaps shown by a conversion, and the pieces of its format. -/
  | value (e : Expr) (conversion : Option Char) (format : List Piece)

/-- One parameter. -/
inductive Parameter where
  | mk (id : String) (span : Span) (hint default : Option Expr)

/-- The parameters of a function. -/
inductive Parameters where
  | mk (positionalOnly regular : List Parameter) (rest : Option Parameter)
      (keywordOnly : List Parameter) (keywords : Option Parameter)

end

mutual

/-- A pattern of a `case`, and its place. -/
inductive Pattern where
  | mk (span : Span) (node : PatternNode)

/-- What a pattern says. -/
inductive PatternNode where
  /-- Something equal to a value. -/
  | value (e : Expr)
  /-- One of the values that there is only once. -/
  | only (value : Literal)
  /-- Anything, perhaps with a name. -/
  | capture (id : Option String)
  /-- What a pattern takes, with a name. -/
  | named (pattern : Pattern) (id : String)
  | either (patterns : List Pattern)
  | sequence (patterns : List Pattern)
  /-- The other items of a sequence, perhaps with a name. -/
  | rest (id : Option String)
  /-- Some of the keys of a mapping, and perhaps a name for the other entries. -/
  | mapping (entries : List (Expr × Pattern)) (others : Option String)
  /-- A value of a class, with its attributes by position and by name. -/
  | instance_ (kind : Expr) (args : List Pattern) (keywords : List (String × Pattern))

end

/-- An imported name and the name it is bound to. -/
structure Alias where
  name : String
  bound : Option String
  span : Span
  deriving Repr, Inhabited

mutual

/-- A statement and its place. -/
inductive Stmt where
  | mk (span : Span) (node : StmtNode)

/-- What a statement says. -/
inductive StmtNode where
  | expression (value : Expr)
  | assign (targets : List Expr) (value : Expr)
  | annotated (target hint : Expr) (value : Option Expr) (bare : Bool)
  | augmented (target : Expr) (op : BinaryOp) (value : Expr)
  | return_ (value : Option Expr)
  | raise (error cause : Option Expr)
  | assert (test : Expr) (message : Option Expr)
  | delete (targets : List Expr)
  | pass
  | break_
  | continue_
  | global (names : List String)
  | nonlocal (names : List String)
  | import_ (names : List Alias)
  | importFrom (module : String) (names : List Alias) (level : Nat)
  | if_ (test : Expr) (body orElse : List Stmt)
  | while_ (test : Expr) (body orElse : List Stmt)
  | for_ (target iterable : Expr) (body orElse : List Stmt)
  /-- A loop that waits for each of its items. -/
  | asyncFor (target iterable : Expr) (body orElse : List Stmt)
  | try_ (body : List Stmt) (handlers : List Handler) (orElse final : List Stmt)
  /-- A `try` whose handlers take errors out of groups. -/
  | tryStar (body : List Stmt) (handlers : List Handler) (orElse final : List Stmt)
  | with_ (items : List (Expr × Option Expr)) (body : List Stmt)
  /-- A `with` that waits for the start and the end of its managers. -/
  | asyncWith (items : List (Expr × Option Expr)) (body : List Stmt)
  | match_ (subject : Expr) (cases : List Case)
  | function (awaits : Bool) (name : String) (params : Parameters) (returns : Option Expr)
      (body : List Stmt) (decorators : List Expr)
  | class_ (name : String) (args : List Argument) (body : List Stmt) (decorators : List Expr)

/-- One `except` of a `try`. -/
inductive Handler where
  | mk (span : Span) (kind : Option Expr) (name : Option String) (body : List Stmt)

/-- One `case` of a `match`. -/
inductive Case where
  | mk (pattern : Pattern) (guard : Option Expr) (body : List Stmt)

end

instance : Inhabited Expr := ⟨.mk default (.literal .none)⟩
instance : Inhabited Stmt := ⟨.mk default .pass⟩
instance : Inhabited Pattern := ⟨.mk default (.capture none)⟩
instance : Inhabited Parameters := ⟨.mk [] [] none [] none⟩

/-- The place of an expression. -/
def Expr.span : Expr → Span
  | .mk span _ => span

/-- What an expression says. -/
def Expr.node : Expr → ExprNode
  | .mk _ node => node

/-- The place of a pattern. -/
def Pattern.span : Pattern → Span
  | .mk span _ => span

/-- What a pattern says. -/
def Pattern.node : Pattern → PatternNode
  | .mk _ node => node

/-- Whether a pattern takes the other items of a sequence. -/
def Pattern.isRest : Pattern → Bool
  | .mk _ (.rest _) => true
  | _ => false

/-- Whether a pattern takes anything and gives it no name. -/
def Pattern.isWildcard : Pattern → Bool
  | .mk _ (.capture none) => true
  | _ => false

/-- Whether a pattern takes anything, or any other items, and gives it no name. -/
def Pattern.isBlank : Pattern → Bool
  | .mk _ (.capture none) | .mk _ (.rest none) => true
  | _ => false

/-- The place of a statement. -/
def Stmt.span : Stmt → Span
  | .mk span _ => span

/-- What a statement says. -/
def Stmt.node : Stmt → StmtNode
  | .mk _ node => node

/-- The name of a parameter. -/
def Parameter.id : Parameter → String
  | .mk id _ _ _ => id

/-- The place of a parameter. -/
def Parameter.span : Parameter → Span
  | .mk _ span _ _ => span

/-- The type hint of a parameter. -/
def Parameter.hint : Parameter → Option Expr
  | .mk _ _ hint _ => hint

/-- The default value of a parameter. -/
def Parameter.default : Parameter → Option Expr
  | .mk _ _ _ value => value

namespace Parameters

/-- Parameters that only a position fills. -/
def positionalOnly : Parameters → List Parameter
  | .mk ps _ _ _ _ => ps

/-- Parameters that a position or a name fills. -/
def regular : Parameters → List Parameter
  | .mk _ ps _ _ _ => ps

/-- The parameter that takes the other positional arguments. -/
def rest : Parameters → Option Parameter
  | .mk _ _ p _ _ => p

/-- Parameters that only a name fills. -/
def keywordOnly : Parameters → List Parameter
  | .mk _ _ _ ps _ => ps

/-- The parameter that takes the other named arguments. -/
def keywords : Parameters → Option Parameter
  | .mk _ _ _ _ p => p

/-- Parameters that a position fills. -/
def positional (p : Parameters) : List Parameter := p.positionalOnly ++ p.regular

/-- All parameters. -/
def all (p : Parameters) : List Parameter :=
  p.positional ++ p.keywordOnly ++ p.rest.toList ++ p.keywords.toList

end Parameters

end SnippetRunner.Snippet
