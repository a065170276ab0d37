import SnippetRunner.Snippet.Grammar.Target
import SnippetRunner.Snippet.Literal

/-!
# The grammar of expressions

One reader per rule, from names and literals up to conditional expressions. A rule that contains
a smaller expression takes the readers for it from a record of rules; the record of depth `n` is
built from the record of depth `n - 1`, so every nesting is bounded by the depth. When reasons
are looked for, a rule also tries the mistakes that are made in its place.
-/

namespace SnippetRunner.Snippet

open Reader

/-- The readers that expressions use for the expressions inside them. -/
structure ExprRules where
  expression : Reader Expr
  disjunction : Reader Expr
  inversion : Reader Expr
  factor : Reader Expr
  bitwiseOr : Reader Expr
  namedExpression : Reader Expr
  starExpressions : Reader Expr
  starTarget : Reader Expr
  targetAtom : Reader Expr
  /-- What an inner text says, read by itself. -/
  embedded : Setting → Except Refusal Expr

namespace ExprRules

variable (g : ExprRules)

/-- An expression with the span since an index. -/
def node (start : Nat) (n : ExprNode) : Reader Expr := do return .mk (← spanSince start) n

/-! ## Literals -/

/-- The value of a number token. -/
def number : Reader Expr := do
  let start ← here
  let t ← ofKind .number
  match numberValue t.text with
  | .int n => node start (.literal (.int n))
  | .float x => node start (.literal (.float x))
  | .imaginary x => node start (.literal (.imaginary x))
  | .tooLong digits =>
    refuseSpan (← tokenSpan t)
      (Number.lengthComplaint s!": value has {digits} digits" ++
        " - Consider hexadecimal for huge integer literals to avoid decimal conversion limits.")

/-- The place of a character inside a token: added lines and the column in bytes. -/
def placeInside (before : List Char) : Nat × Nat :=
  let lines := (before.filter (· == '\n')).length
  let last := (before.reverse.takeWhile (· != '\n'))
  (lines, last.foldl (fun n c => n + c.utf8Size) 0)

/-- Whether the words of a text are refused for themselves, whatever they are put together to. -/
def hasOwnFault (tokens : Tokens) : Bool :=
  match tokens.fault with
  | some (.refused _, _) => true
  | _ => false

/-- Reads an inner text as an expression. Its refusals name it as an inner text, unless they are
about one of its words. -/
def readEmbedded (t : Token) (before body : List Char) : Reader Expr := fun s place =>
  let (lines, column) := placeInside before
  let tokens := Tokens.ofString ("(" ++ String.ofList body ++ ")")
  let outer := shift s t.span
  let inner : Setting :=
    { tokens, quotes := s.quotes
      lineShift := outer.line - 1 + lines
      columnShift := if lines = 0 then outer.column + column - 1 else column - 1 }
  match g.embedded inner with
  | .ok e => .found e place
  | .error refusal =>
    let lead := if hasOwnFault tokens then "" else "f-string: "
    .refused
      { refusal := { refusal with
          message := lead ++ refusal.message
          line := refusal.line + inner.lineShift
          endLine := refusal.endLine + inner.lineShift }
        seen := place.seen }

/-- The blanks that may follow the sign after which an embedded value shows its source. -/
def isBlankSign (c : Char) : Bool :=
  [' ', '\t', '\n', '\r', '\x0b', '\x0c'].contains c

/-- The complaint about an embedded value that is not there; `sign` comes next. -/
def missingValue (sign : Option Char) : String :=
  match sign.filter fun c => c == '!' || c == ':' || c == '=' with
  | some c => s!"f-string: expression required before '{c}'"
  | none => "f-string: empty expression not allowed"

/-- An embedded value and the pieces after it, which `again` reads at a level. -/
def embeddedPiece (t : Token) (level : Nat)
    (again : Nat → List Char → List Char → Reader (List Piece × List Char × List Char))
    (flush : List Piece → Reader (List Piece)) (before cs : List Char) :
    Reader (List Piece × List Char × List Char) :=
  if 2 ≤ level then refuseHere "f-string: expressions nested too deeply"
  else match spanEmbedded (cs.length + 1) [] none [] (cs.drop 1) with
  | .error message => refuseHere message
  | .ok (body, rest) =>
    if rest.isEmpty then refuseHere "f-string: expecting '\x7d'"
    else if body.all fun c => c == ' ' || c == '\t' || c == '\n' || c == '\x0c' then
      refuseHere (missingValue rest.head?)
    else do
      let before := '\x7b' :: before
      let e ← readEmbedded g t before.reverse body
      let before := body.reverse ++ before
      -- a trailing equals sign shows the source of the value as well
      let (label, before, rest) := match rest with
        | '=' :: more =>
          let blanks := more.takeWhile isBlankSign
          (some (String.ofList body ++ "=" ++ String.ofList blanks),
            blanks ++ '=' :: before, more.drop blanks.length)
        | _ => (none, before, rest)
      let (conversion, before, rest) ← match rest with
        | '!' :: c :: more =>
          if c == 's' || c == 'r' || c == 'a' then
            done (some c, c :: '!' :: before, more)
          else refuseHere "f-string: invalid conversion character: expected 's', 'r', or 'a'"
        | _ => done (none, before, rest)
      let (format, before, rest) ← match rest with
        | ':' :: more => again (level + 1) (':' :: before) more
        | _ => done ([], before, rest)
      let conversion := match label, conversion with
        | some _, none => if format.isEmpty then some 'r' else none
        | _, c => c
      match rest with
      | '\x7d' :: more => do
        let (others, before, rest) ← again level ('\x7d' :: before) more
        let labelled := match label with
          | some s => [Piece.text s]
          | none => []
        let all ← flush (labelled ++ .value e conversion format :: others)
        return (all, before, rest)
      | _ => refuseHere "f-string: expecting '\x7d'"

/-- The pieces of a text with embedded values; `before` is the part of the token already read,
`level` tells how many embedded values this is the format of, one inside the other. -/
def pieces (t : Token) (raw : Bool) (level : Nat) :
    Nat → List Char → List Char → List Char → Reader (List Piece × List Char × List Char)
  | 0, _, before, cs => done ([], before, cs)
  | fuel + 1, text, before, cs =>
    let flush (rest : List Piece) : Reader (List Piece) :=
      if text.isEmpty then done rest
      else match literalText raw text.reverse with
        | .ok s => done (.text s :: rest)
        | .error message => refuseHere message
    let again (level : Nat) := pieces t raw level fuel []
    match cs with
    | [] => do return (← flush [], before, [])
    | '\x7b' :: '\x7b' :: rest =>
      if 0 < level then embeddedPiece g t level again flush before cs
      else pieces t raw level fuel ('\x7b' :: text) ('\x7b' :: '\x7b' :: before) rest
    | '\x7b' :: _ => embeddedPiece g t level again flush before cs
    | '\x7d' :: rest =>
      if 0 < level then do return (← flush [], before, cs)
      else match rest with
        | '\x7d' :: more =>
          pieces t raw level fuel ('\x7d' :: text) ('\x7d' :: '\x7d' :: before) more
        | _ => refuseHere "f-string: single '\x7d' is not allowed"
    | '\\' :: c :: rest =>
      if raw || c == '\x7b' || c == '\x7d' then
        pieces t raw level fuel ('\\' :: text) ('\\' :: before) (c :: rest)
      else if c == 'N' && rest.head? == some '\x7b' then
        -- the braces of a name hold no value
        let name := rest.takeWhile (· != '\x7d')
        let escape := '\\' :: 'N' :: rest.take (name.length + 1)
        pieces t raw level fuel (escape.reverse ++ text) (escape.reverse ++ before)
          (rest.drop (name.length + 1))
      else pieces t raw level fuel (c :: '\\' :: text) (c :: '\\' :: before) rest
    | c :: rest => pieces t raw level fuel (c :: text) (c :: before) rest

/-- What one string token contributes. -/
inductive StringPiece where
  | text (s : String)
  | bytes (bs : List UInt8)
  | joined (pieces : List Piece)

/-- Reads the body of a string token. -/
def stringPiece (t : Token) : Reader StringPiece := do
  let parts := StringParts.ofText t.text
  if parts.bytes then
    if parts.body.any fun c => 128 ≤ c.toNat then
      refuseHere "bytes can only contain ASCII literal characters"
    match literalBytes parts.raw parts.body with
    | .ok bs => return .bytes bs
    | .error message => refuseHere message
  else if parts.joined then
    let before := (t.text.toList.take parts.start).reverse
    let (ps, _, _) ← pieces g t parts.raw 0 (4 * parts.body.length + 8) [] before parts.body
    return .joined ps
  else
    match literalText parts.raw parts.body with
    | .ok s => return .text s
    | .error message => refuseHere message

/-- Adjacent texts as one. -/
def mergeTexts : List Piece → List Piece
  | .text a :: .text b :: rest => mergeTexts (.text (a ++ b) :: rest)
  | p :: rest => p :: mergeTexts rest
  | [] => []
termination_by ps => ps.length

/-- What adjacent string tokens contribute. They are all of bytes or none is; `bytes?` tells what
the one before was. A literal's own faults come before that of the mixture, those inside the
values of a formatted one after it. -/
def stringPieces (bytes? : Option Bool) : List Token → Reader (List StringPiece)
  | [] => done []
  | t :: ts => do
    let parts := StringParts.ofText t.text
    let mixed := bytes?.any (· != parts.bytes)
    if mixed && parts.joined then refuseHere "cannot mix bytes and nonbytes literals"
    let piece ← stringPiece g t
    if mixed then refuseHere "cannot mix bytes and nonbytes literals"
    return piece :: (← stringPieces (some parts.bytes) ts)

/-- Adjacent string literals, which are one. -/
def strings : Reader Expr := do
  let start ← here
  let first ← ofKind .string
  let more ← many (ofKind .string)
  let found ← stringPieces g none (first :: more)
  if found.any fun | .bytes _ => true | _ => false then
    node start (.literal (.bytes (found.flatMap fun
      | .bytes bs => bs
      | _ => [])))
  else if found.any fun | .joined _ => true | _ => false then
    node start (.joined (mergeTexts (found.flatMap fun
      | .text s => [.text s]
      | .joined ps => ps
      | .bytes _ => [])))
  else
    node start (.literal (.text (String.join (found.map fun
      | .text s => s
      | _ => ""))))

/-! ## Arguments -/

/-- `NAME := expression`. -/
def assignmentExpression : Reader Expr := do
  let start ← here
  let id ← name
  let idSpan ← spanSince start
  let _ ← op ":="
  fun s place =>
    -- once the sign is read there is no other way
    match g.expression s place with
    | .found e place => node start (.assignment id.text idSpan e) s place
    | answer => answer

/-- `* expression`. -/
def starredExpression : Reader Expr := do
  let start ← here
  let _ ← op "*"
  let e ← g.expression
  node start (.starred e)

/-- The conditions of a clause. -/
def conditions : Reader (List Expr) := many (do let _ ← word "if"; g.disjunction)

/-- Several targets as one, with a tuple where a comma stands. -/
def starTargets : Reader Expr := do
  let start ← here
  let first ← g.starTarget
  (do notAhead (op ","); return first) <|> do
    let more ← many (do let _ ← op ","; g.starTarget)
    let _ ← optional (op ",")
    node start (.tuple (first :: more))

/-- The mistake of a loop over something that is no target. -/
def invalidForTarget {α : Type} : Reader α := do
  let _ ← optional (word "async")
  let _ ← word "for"
  let e ← g.starExpressions
  refuseTarget .loop e

/-- One `for` clause. -/
def forClause : Reader Clause :=
  (do
    let awaits ← optional (word "async")
    let _ ← word "for"
    let target ← starTargets g
    let _ ← word "in"
    let iterable ← g.disjunction
    return .mk awaits.isSome target iterable (← conditions g))
  <|> whenExplaining (invalidForTarget g)

/-- The `for` clauses of a comprehension. -/
def forClauses : Reader (List Clause) := many1 (forClause g)

/-- The end of the last clause. -/
def lastClauseSpan (clauses : List Clause) : Span :=
  match clauses.getLast? with
  | some (.mk _ _ iterable conditions) =>
    match conditions.getLast? with
    | some e => e.span
    | none => iterable.span
  | none => default

/-- The mistakes of a named argument. -/
def invalidKeyword {α : Type} : Reader α :=
  (do
    let start ← here
    let t ← token fun t => t.kind == .keyword && (t.text == "True" || t.text == "False"
      || t.text == "None")
    let _ ← op "="
    refuseSpan (← spanSince start) s!"cannot assign to {t.text}")
  <|> (do
    let start ← here
    let _ ← name
    let _ ← op "="
    let span ← spanSince start
    let _ ← g.expression
    let _ ← forClauses g
    refuseSpan span "invalid syntax. Maybe you meant '==' or ':=' instead of '='?")
  <|> (do
    notAhead (do let _ ← name; op "=")
    let e ← g.expression
    let start ← here
    let _ ← op "="
    refuseSpan (e.span.upTo (← spanSince start))
      "expression cannot contain assignment, perhaps you meant \"==\"?")

/-- `NAME = expression` as an argument. -/
def namedArgument : Reader Argument := do
  let start ← here
  let id ← name
  let _ ← op "="
  let value ← g.expression
  return .keyword (← spanSince start) id.text value

/-- A named argument or a spread one. -/
def keywordOrStarred : Reader Argument :=
  whenExplaining (invalidKeyword g) <|> namedArgument g
    <|> (do
      let e ← starredExpression g
      match e.node with
      | .starred value => return .spread value
      | _ => absent)

/-- A named argument or spread named ones. -/
def keywordOrDoubleStarred : Reader Argument :=
  whenExplaining (invalidKeyword g) <|> namedArgument g
    <|> (do let _ ← op "**"; return .spreadKeywords (← g.expression))

/-- The arguments that follow the positional ones. -/
def keywordArguments : Reader (List Argument) :=
  (do
    let a ← sepBy1 (keywordOrStarred g) (op ",")
    let _ ← op ","
    let b ← sepBy1 (keywordOrDoubleStarred g) (op ",")
    return a ++ b)
  <|> sepBy1 (keywordOrStarred g) (op ",")
  <|> sepBy1 (keywordOrDoubleStarred g) (op ",")

/-- An argument by position. -/
def positionalArgument : Reader Argument :=
  (do
    let e ← starredExpression g
    match e.node with
    | .starred value => return .spread value
    | _ => absent)
  <|> (do
    let e ← assignmentExpression g <|> (do
      let e ← g.expression
      notAhead (op ":=")
      return e)
    notAhead (op "=")
    return .positional e)

/-- All arguments. -/
def args : Reader (List Argument) :=
  (do
    let first ← sepBy1 (positionalArgument g) (op ",")
    let more ← optional (do let _ ← op ","; keywordArguments g)
    return first ++ more.getD [])
  <|> keywordArguments g

/-- The expressions among arguments that a position fills. -/
def positionalValues (as : List Argument) : List Expr :=
  as.filterMap fun a => match a with
    | .positional e => some e
    | .spread e => some e
    | _ => none

/-- The mistakes in a list of arguments. -/
def invalidArguments {α : Type} : Reader α :=
  (do
    let start ← here
    let _ ← args g
    let span ← spanSince start
    let _ ← op ","
    let _ ← op "*"
    refuseSpan span "iterable argument unpacking follows keyword argument unpacking")
  <|> (do
    let a ← g.expression
    let clauses ← forClauses g
    let _ ← op ","
    let _ ← optional ((do let _ ← args g) <|> (do let _ ← g.expression; let _ ← forClauses g))
    refuseSpan (a.span.upTo (lastClauseSpan clauses)) "Generator expression must be parenthesized")
  <|> (do
    let start ← here
    let _ ← name
    let _ ← op "="
    let span ← spanSince start
    let _ ← g.expression
    let _ ← forClauses g
    refuseSpan span "invalid syntax. Maybe you meant '==' or ':=' instead of '='?")
  <|> (do
    let as ← args g
    let clauses ← forClauses g
    match (positionalValues as).reverse with
    | last :: _ :: _ =>
      refuseSpan (last.span.upTo (lastClauseSpan clauses))
        "Generator expression must be parenthesized"
    | _ => absent)
  <|> (do
    let _ ← args g
    let _ ← op ","
    let a ← g.expression
    let clauses ← forClauses g
    match clauses.getLast? with
    | some (.mk _ target _ _) =>
      refuseSpan (a.span.upTo target.span) "Generator expression must be parenthesized"
    | none => absent)
  <|> (do
    let as ← args g
    let _ ← op ","
    let _ ← args g
    let spread := as.any fun a => match a with
      | .spreadKeywords _ => true
      | _ => false
    refuseHere (if spread then "positional argument follows keyword argument unpacking"
      else "positional argument follows keyword argument"))

/-- The arguments of a call, up to the closing bracket. -/
def arguments : Reader (List Argument) :=
  (do
    let as ← args g
    let _ ← optional (op ",")
    ahead (op ")")
    return as)
  <|> whenExplaining (invalidArguments g)

/-! ## Atoms -/

/-- A name, or a spread expression, in a display. -/
def starNamed : Reader Expr :=
  (do
    let start ← here
    let _ ← op "*"
    let e ← g.bitwiseOr
    node start (.starred e))
  <|> g.namedExpression

/-- Several of them. -/
def starNamedList : Reader (List Expr) := do
  let items ← sepBy1 (starNamed g) (op ",")
  let _ ← optional (op ",")
  return items

/-- The mistakes in a comprehension. -/
def invalidComprehension {α : Type} (brackets : List String) : Reader α :=
  let opening := token fun t => t.kind == .operator && brackets.contains t.text
  let squareOrBrace := token fun t => t.kind == .operator &&
    (t.text == "[" || t.text == "\x7b") && brackets.contains t.text
  (do
    let _ ← opening
    let e ← starredExpression g
    let _ ← forClauses g
    refuseSpan e.span "iterable unpacking cannot be used in comprehension")
  <|> (do
    let _ ← squareOrBrace
    let a ← starNamed g
    let _ ← op ","
    let bs ← starNamedList g
    let _ ← forClauses g
    let last := bs.getLast?.getD a
    refuseSpan (a.span.upTo last.span)
      "did you forget parentheses around the comprehension target?")
  <|> (do
    let start ← here
    let _ ← squareOrBrace
    let a ← starNamed g
    let _ ← op ","
    let span ← spanSince start
    let _ ← forClauses g
    refuseSpan (a.span.upTo span) "did you forget parentheses around the comprehension target?")

/-- Any opening bracket, for the mistakes that all comprehensions share. -/
def anyBracket : List String := ["[", "(", "\x7b"]

/-- `( … for … )`. -/
def generator : Reader Expr :=
  (do
    let start ← here
    let _ ← op "("
    let e ← assignmentExpression g <|> (do
      let e ← g.expression
      notAhead (op ":=")
      return e)
    let clauses ← forClauses g
    let _ ← op ")"
    node start (.comprehension .generator e none clauses))
  <|> whenExplaining (invalidComprehension g anyBracket)

/-- `( … , … )`. -/
def tuple : Reader Expr := do
  let start ← here
  let _ ← op "("
  let items ← optional (do
    let first ← starNamed g
    let _ ← op ","
    let more ← optional (starNamedList g)
    return first :: more.getD [])
  let _ ← op ")"
  node start (.tuple (items.getD []))

/-- `yield …`. -/
def yieldExpression : Reader Expr := do
  let start ← here
  let _ ← word "yield"
  (do
    let _ ← word "from"
    let e ← g.expression
    node start (.yieldFrom e))
  <|> (do
    let e ← optional g.starExpressions
    node start (.yield e))

/-- `( … )`, which is what stands inside. -/
def group : Reader Expr :=
  (do
    let _ ← op "("
    let e ← yieldExpression g <|> g.namedExpression
    let _ ← op ")"
    return e)
  <|> whenExplaining (
    (do
      let _ ← op "("
      let e ← starredExpression g
      let _ ← op ")"
      refuseSpan e.span "cannot use starred expression here")
    <|> (do
      let _ ← op "("
      let t ← op "**"
      let _ ← g.expression
      let _ ← op ")"
      refuseSpan (← tokenSpan t) "cannot use double starred expression here"))

/-- `[ … ]`. -/
def list : Reader Expr := do
  let start ← here
  let _ ← op "["
  let items ← optional (starNamedList g)
  let _ ← op "]"
  node start (.list (items.getD []))

/-- `[ … for … ]`. -/
def listComprehension : Reader Expr :=
  (do
    let start ← here
    let _ ← op "["
    let e ← g.namedExpression
    let clauses ← forClauses g
    let _ ← op "]"
    node start (.comprehension .list e none clauses))
  <|> whenExplaining (invalidComprehension g anyBracket)

/-- One entry of a mapping. -/
def pair : Reader (Expr × Expr) := do
  let k ← g.expression
  let _ ← op ":"
  let v ← g.expression
  return (k, v)

/-- One entry of a mapping, or a spread mapping. -/
def entry : Reader (Option Expr × Expr) :=
  (do let _ ← op "**"; return (none, ← g.bitwiseOr))
  <|> (do let (k, v) ← pair g; return (some k, v))

/-- The mistakes of one entry. -/
def invalidPair {α : Type} : Reader α :=
  (do
    let a ← g.expression
    notAhead (op ":")
    fun s place =>
      let span := unshift s a.span
      .refused
        { refusal := s.tokens.source.refuse (lastSeen s place) .grammar
            "':' expected after dictionary key" span.line span.endColumn span.endLine 0
          seen := place.seen })
  <|> (do
    let _ ← g.expression
    let _ ← op ":"
    let start ← here
    let _ ← op "*"
    let _ ← g.bitwiseOr
    refuseFrom (← spanSince start) "cannot use a starred expression in a dictionary value")
  <|> (do
    let _ ← g.expression
    let t ← op ":"
    ahead (op "\x7d" <|> op ",")
    refuseSpan (← tokenSpan t) "expression expected after dictionary key and ':'")

/-- The mistakes in the entries of a mapping. -/
def invalidEntries {α : Type} : Reader α :=
  (do
    let _ ← sepBy1 (entry g) (op ",")
    let _ ← op ","
    invalidPair g)
  <|> (do
    let _ ← g.expression
    let _ ← op ":"
    let start ← here
    let _ ← op "*"
    let _ ← g.bitwiseOr
    refuseFrom (← spanSince start) "cannot use a starred expression in a dictionary value")
  <|> (do
    let _ ← g.expression
    let t ← op ":"
    ahead (op "\x7d" <|> op ",")
    refuseSpan (← tokenSpan t) "expression expected after dictionary key and ':'")

/-- A mapping. -/
def mapping : Reader Expr :=
  (do
    let start ← here
    let _ ← op "\x7b"
    let entries ← optional (do
      let es ← sepBy1 (entry g) (op ",")
      let _ ← optional (op ",")
      return es)
    let _ ← op "\x7d"
    node start (.mapping (entries.getD [])))
  <|> whenExplaining (do
    let _ ← op "\x7b"
    invalidEntries g)

/-- A set. -/
def set : Reader Expr := do
  let start ← here
  let _ ← op "\x7b"
  let items ← starNamedList g
  let _ ← op "\x7d"
  node start (.set items)

/-- A comprehension of a mapping. -/
def mappingComprehension : Reader Expr :=
  (do
    let start ← here
    let _ ← op "\x7b"
    let (k, v) ← pair g
    let clauses ← forClauses g
    let _ ← op "\x7d"
    node start (.comprehension .mapping k (some v) clauses))
  <|> whenExplaining (do
    let _ ← op "\x7b"
    let t ← op "**"
    let _ ← g.bitwiseOr
    let _ ← forClauses g
    let _ ← op "\x7d"
    refuseSpan (← tokenSpan t) "dict unpacking cannot be used in dict comprehension")

/-- A comprehension of a set. -/
def setComprehension : Reader Expr :=
  (do
    let start ← here
    let _ ← op "\x7b"
    let e ← g.namedExpression
    let clauses ← forClauses g
    let _ ← op "\x7d"
    node start (.comprehension .set e none clauses))
  <|> whenExplaining (invalidComprehension g anyBracket)

/-- A name, a literal, or something in brackets. -/
def atom : Reader Expr := do
  let start ← here
  let t ← peek
  match t.kind with
  | .name => do let t ← name; node start (.name t.text)
  | .number => number
  | .string => strings g
  | .keyword =>
    if t.text == "True" then do let _ ← word "True"; node start (.literal (.bool true))
    else if t.text == "False" then do let _ ← word "False"; node start (.literal (.bool false))
    else if t.text == "None" then do let _ ← word "None"; node start (.literal .none)
    else absent
  | .operator =>
    if t.text == "(" then tuple g <|> group g <|> generator g
    else if t.text == "[" then list g <|> listComprehension g
    else if t.text == "\x7b" then
      mapping g <|> set g <|> mappingComprehension g <|> setComprehension g
    else if t.text == "..." then do let _ ← op "..."; node start (.literal .ellipsis)
    else absent
  | _ => absent

/-! ## Primaries -/

/-- One slice or index. -/
def sliceItem : Reader Expr :=
  (do
    let start ← here
    let lower ← optional g.expression
    let _ ← op ":"
    let upper ← optional g.expression
    let step ← optional (do let _ ← op ":"; optional g.expression)
    node start (.slice lower upper (step.getD none)))
  <|> g.namedExpression

/-- What stands between the brackets of a subscript. -/
def slices : Reader Expr :=
  (do let e ← sliceItem g; notAhead (op ","); return e)
  <|> (do
    let start ← here
    let items ← sepBy1 (sliceItem g <|> starredExpression g) (op ",")
    let _ ← optional (op ",")
    node start (.tuple items))

/-- What may follow a value: an attribute, a call or a subscript. -/
def suffix (start : Nat) (value : Expr) : Reader Expr :=
  (do
    let _ ← op "."
    let t ← name
    node start (.attribute value t.text))
  <|> (do
    let e ← generator g
    node start (.call value [.positional e]))
  <|> (do
    let _ ← op "("
    let as ← optional (arguments g)
    let _ ← op ")"
    node start (.call value (as.getD [])))
  <|> (do
    let _ ← op "["
    let e ← slices g
    let _ ← op "]"
    node start (.subscript value e))

/-- A value with everything that follows it. -/
def suffixes (start : Nat) : Nat → Expr → Reader Expr
  | 0, value => done value
  | fuel + 1, value => do
    match ← optional (suffix g start value) with
    | none => return value
    | some longer => suffixes start fuel longer

/-- An atom with everything that follows it. -/
def primary : Reader Expr := remember 0 do
  let start ← here
  suffixes g start (← size) (← atom g)

/-- `await` and a primary. -/
def awaitPrimary : Reader Expr :=
  (do
    let start ← here
    let _ ← word "await"
    let e ← primary g
    node start (.await e))
  <|> primary g

/-! ## Targets -/

/-- What shows that a value goes on. -/
def targetGoesOn : Reader Unit := ahead (op "(" <|> op "[" <|> op ".")

/-- The longest value that still goes on. -/
def targetPrefix (start : Nat) : Nat → Expr → Reader Expr
  | 0, value => done value
  | fuel + 1, value => do
    match ← optional (do
      let longer ← suffix g start value
      targetGoesOn
      return longer) with
    | none => return value
    | some longer => targetPrefix start fuel longer

/-- A value before the attribute or subscript that is the target. -/
def targetPrimary : Reader Expr := remember 5 do
  let start ← here
  let value ← atom g
  targetGoesOn
  targetPrefix g start (← size) value

/-- An attribute or a subscript as a target. -/
def memberTarget : Reader Expr :=
  (do
    let start ← here
    let value ← targetPrimary g
    let _ ← op "."
    let t ← name
    notAhead targetGoesOn
    node start (.attribute value t.text))
  <|> (do
    let start ← here
    let value ← targetPrimary g
    let _ ← op "["
    let e ← slices g
    let _ ← op "]"
    notAhead targetGoesOn
    node start (.subscript value e))

/-- The targets between brackets of a tuple. -/
def tupleTargets : Reader (List Expr) :=
  (do
    let first ← g.starTarget
    let more ← many1 (do let _ ← op ","; g.starTarget)
    let _ ← optional (op ",")
    return first :: more)
  <|> (do
    let first ← g.starTarget
    let _ ← op ","
    return [first])

/-- The targets between brackets of a list. -/
def listTargets : Reader (List Expr) := do
  let items ← sepBy1 g.starTarget (op ",")
  let _ ← optional (op ",")
  return items

/-- A name as a target, or targets in brackets. -/
def starAtom : Reader Expr := remember 6 <|
  (do let start ← here; let t ← name; node start (.name t.text))
  <|> (do
    let _ ← op "("
    let e ← g.targetAtom
    let _ ← op ")"
    return e)
  <|> (do
    let start ← here
    let _ ← op "("
    let items ← optional (tupleTargets g)
    let _ ← op ")"
    node start (.tuple (items.getD [])))
  <|> (do
    let start ← here
    let _ ← op "["
    let items ← optional (listTargets g)
    let _ ← op "]"
    node start (.list (items.getD [])))

/-- A target without a star. -/
def targetAtom' : Reader Expr := memberTarget g <|> starAtom g

/-- A target, perhaps with a star. -/
def starTarget' : Reader Expr := remember 7 <|
  (do
    let start ← here
    let _ ← op "*"
    notAhead (op "*")
    let e ← g.starTarget
    node start (.starred e))
  <|> targetAtom' g

/-- A single target. -/
def singleTarget : Nat → Reader Expr
  | 0 => absent
  | fuel + 1 =>
    memberTarget g
    <|> (do let start ← here; let t ← name; node start (.name t.text))
    <|> (do
      let _ ← op "("
      let e ← singleTarget fuel
      let _ ← op ")"
      return e)

/-! ## Operators -/

/-- Operands of one level with operators between them, grouped from the left. -/
def leftOperators (operand : Reader Expr) (ops : List (String × BinaryOp)) (start : Nat) :
    Nat → Expr → Reader Expr
  | 0, left => done left
  | fuel + 1, left => do
    let t ← optional (token fun t => t.kind == .operator && ops.any (·.1 == t.text))
    match t with
    | none => return left
    | some t =>
      match ← optional operand with
      | none => fun _ place => .found left { place with index := place.index - 1 }
      | some right =>
        let op := ((ops.find? (·.1 == t.text)).map (·.2)).getD .add
        let e ← node start (.binary op left right)
        leftOperators operand ops start fuel e

/-- One level of operators. -/
def level (operand : Reader Expr) (ops : List (String × BinaryOp)) : Reader Expr := do
  let start ← here
  let left ← operand
  leftOperators operand ops start (← size) left

/-- A value with a power. -/
def power : Reader Expr := do
  let start ← here
  let base ← awaitPrimary g
  (do
    let _ ← op "**"
    let e ← g.factor
    node start (.binary .pow base e))
  <|> done base

/-- A value with signs before it. -/
def factor' : Reader Expr := remember 1 do
  let start ← here
  let t ← peek
  let signs := [("+", UnaryOp.plus), ("-", .minus), ("~", .invert)]
  match signs.find? (fun sign => t.kind == .operator && sign.1 == t.text) with
  | some (text, sign) => do
    let _ ← op text
    let e ← g.factor
    node start (.unary sign e)
  | none => power g

/-- Products. -/
def term : Reader Expr :=
  level (factor' g) [("*", .mul), ("/", .div), ("//", .floorDiv), ("%", .mod), ("@", .matMul)]

/-- Sums. -/
def sum : Reader Expr := level (term g) [("+", .add), ("-", .sub)]

/-- Shifts. -/
def shiftLevel : Reader Expr := level (sum g) [("<<", .leftShift), (">>", .rightShift)]

/-- Bitwise operators. -/
def bitwiseOr' : Reader Expr := remember 2 do
  level (level (level (shiftLevel g) [("&", .bitAnd)]) [("^", .bitXor)]) [("|", .bitOr)]

/-- An operator of comparison. -/
def compareOp : Reader CompareOp :=
  (do let _ ← op "=="; return .equal)
  <|> (do let _ ← op "!="; return .notEqual)
  <|> (do let _ ← op "<="; return .lessEqual)
  <|> (do let _ ← op "<"; return .less)
  <|> (do let _ ← op ">="; return .greaterEqual)
  <|> (do let _ ← op ">"; return .greater)
  <|> (do let _ ← word "not"; let _ ← word "in"; return .isNotIn)
  <|> (do let _ ← word "in"; return .isIn)
  <|> (do let _ ← word "is"; let _ ← word "not"; return .notSame)
  <|> (do let _ ← word "is"; return .same)

/-- Comparisons. -/
def comparison : Reader Expr := do
  let start ← here
  let first ← bitwiseOr' g
  let rest ← many (do
    let o ← compareOp
    let e ← bitwiseOr' g
    return (o, e))
  if rest.isEmpty then return first else node start (.compare first rest)

/-- Negations. -/
def inversion' : Reader Expr :=
  (do
    let start ← here
    let _ ← word "not"
    let e ← g.inversion
    node start (.unary .not e))
  <|> comparison g

/-- Conjunctions. -/
def conjunction : Reader Expr := do
  let start ← here
  let first ← inversion' g
  let more ← many (do let _ ← word "and"; inversion' g)
  if more.isEmpty then return first else node start (.boolean true (first :: more))

/-- Disjunctions. -/
def disjunction' : Reader Expr := remember 3 do
  let start ← here
  let first ← conjunction g
  let more ← many (do let _ ← word "or"; conjunction g)
  if more.isEmpty then return first else node start (.boolean false (first :: more))

end ExprRules

end SnippetRunner.Snippet
