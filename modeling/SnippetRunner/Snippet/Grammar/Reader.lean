import SnippetRunner.Snippet.Token.Lexer
import SnippetRunner.Snippet.Tree
import Std.Data.TreeMap

/-!
# Readers of tokens

A reader takes tokens from a place on and finds something there, finds it absent, or refuses the
source. Alternatives are tried in order from the same place. How far any reader has looked is
kept, because a refusal without a better explanation names the furthest token that was looked at.
-/

namespace SnippetRunner.Snippet

/-- What all readers share. -/
structure Setting where
  tokens : Tokens
  /-- Whether to look for the reason of a refusal. -/
  explain : Bool := false
  /-- Whether type hints stand for their own text. -/
  quotes : Bool := true
  /-- Where the tokens stand in a surrounding text: added lines, and added columns of the first
  line. -/
  lineShift : Nat := 0
  columnShift : Nat := 0

/-- A place among the tokens. -/
structure Place where
  index : Nat := 0
  /-- How many tokens have been looked at. -/
  seen : Nat := 0
  /-- Expressions already read, by rule and index. -/
  known : Std.TreeMap (Nat × Nat) (Option (Expr × Nat)) (compareLex (compareOn (·.1)) (compareOn (·.2))) := {}
  /-- Blocks already read, by index. -/
  blocks : Std.TreeMap Nat (Option (List Stmt × Nat)) := {}
  /-- Patterns already read, by index. -/
  patterns : Std.TreeMap Nat (Option (Pattern × Nat)) := {}

/-- A refusal, how many tokens had been looked at, and whether the words themselves caused it. -/
structure Stop where
  refusal : Refusal
  seen : Nat
  byWords : Bool := false

/-- What a reader comes back with. -/
inductive Answer (α : Type) where
  | found (value : α) (place : Place)
  | absent (place : Place)
  | refused (stop : Stop)

/-- Takes tokens from a place on. -/
def Reader (α : Type) := Setting → Place → Answer α

namespace Reader

variable {α β : Type}

/-- Finds a value without taking tokens. -/
def done (value : α) : Reader α := fun _ place => .found value place

/-- Finds nothing. -/
def absent : Reader α := fun _ place => .absent place

/-- One reader after another. -/
def andThen (p : Reader α) (q : α → Reader β) : Reader β := fun s place =>
  match p s place with
  | .found value place => q value s place
  | .absent place => .absent place
  | .refused stop => .refused stop

/-- The first reader that finds something; the second one starts at `index`. -/
@[noinline]
def orElseFrom (index : Nat) (p : Reader α) (q : Unit → Reader α) : Reader α := fun s place =>
  match p s place with
  | .absent after => q () s { after with index }
  | answer => answer

/-- The first reader that finds something, from the same place. -/
def orElse (p : Reader α) (q : Unit → Reader α) : Reader α := fun s place =>
  orElseFrom place.index p q s place

instance : Monad Reader where
  pure := done
  bind := andThen

instance : OrElse (Reader α) := ⟨orElse⟩

instance : Inhabited (Reader α) := ⟨absent⟩

/-- The refusal for a fault of reading. -/
def refusalOf (tokens : Tokens) : LexFault × Token → Refusal
  | (.refused refusal, _) => refusal
  | (.reported kind message (some column), stop) =>
    tokens.source.refuse stop kind message stop.readLine (column + 1) stop.readLine 0
  | (.reported kind message none, stop) => tokens.source.refuseHere stop kind message
  | (.unclosed bracket, stop) =>
    tokens.source.refuse stop .grammar s!"'{bracket.opening}' was never closed" bracket.line
      (bracket.column + 1) bracket.line 0

/-- The next token, which stays. -/
def peek : Reader Token := fun s place =>
  match s.tokens.tokens[place.index]? with
  | some token => .found token { place with seen := max place.seen (place.index + 1) }
  | none =>
    match s.tokens.fault with
    | some fault => .refused ⟨refusalOf s.tokens fault, place.seen, true⟩
    | none => .absent place

/-- Takes the next token if it satisfies a test. -/
def token (test : Token → Bool) : Reader Token := fun s place =>
  match peek s place with
  | .found t place =>
    if test t then .found t { place with index := place.index + 1 } else .absent place
  | answer => answer

/-- Takes an operator. -/
def op (text : String) : Reader Token := token fun t => t.kind == .operator && t.text == text

/-- Takes a keyword. -/
def word (text : String) : Reader Token := token fun t => t.kind == .keyword && t.text == text

/-- Takes a token of a class. -/
def ofKind (kind : TokenKind) : Reader Token := token fun t => t.kind == kind

/-- Takes a name. -/
def name : Reader Token := ofKind .name

/-- Something or nothing. -/
def optional (p : Reader α) : Reader (Option α) :=
  orElse (do return some (← p)) fun _ => done none

/-- Looks whether a reader would find something, or nothing if that is `wanted`; goes on from
`index`. -/
@[noinline]
def looking (index : Nat) (wanted : Bool) (p : Reader α) : Reader Unit := fun s place =>
  match p s place with
  | .found _ after => if wanted then .found () { after with index } else .absent after
  | .absent after => if wanted then .absent after else .found () { after with index }
  | .refused stop => .refused stop

/-- Looks whether a reader would find something, and stays. -/
def ahead (p : Reader α) : Reader Unit := fun s place => looking place.index true p s place

/-- Looks whether a reader would find nothing, and stays. -/
def notAhead (p : Reader α) : Reader Unit := fun s place => looking place.index false p s place

/-- Repeats a reader at most `limit` times, as long as it finds something. -/
def manyUpTo (p : Reader α) : Nat → Reader (List α)
  | 0 => done []
  | limit + 1 => do
    match ← optional p with
    | none => return []
    | some value => return value :: (← manyUpTo p limit)

/-- The number of tokens, which bounds all repetitions. -/
def size : Reader Nat := fun s place => .found (s.tokens.tokens.size + 1) place

/-- Repeats a reader as long as it finds something. -/
def many (p : Reader α) : Reader (List α) := do manyUpTo p (← size)

/-- Repeats a reader at least once. -/
def many1 (p : Reader α) : Reader (List α) := do return (← p) :: (← many p)

/-- A reader at least once, with another between the repetitions. -/
def sepBy1 (p : Reader α) (sep : Reader β) : Reader (List α) := do
  return (← p) :: (← many (do let _ ← sep; p))

/-- Goes on only while reasons are looked for. -/
def whenExplaining (p : Reader α) : Reader α := fun s place =>
  if s.explain then p s place else .absent place

/-- Reads without looking for reasons. -/
def withoutExplaining (p : Reader α) : Reader α := fun s place =>
  p { s with explain := false } place

/-- Where the next token starts, by index. -/
def here : Reader Nat := fun _ place => .found place.index place

/-- The last token that was looked at. -/
def lastSeen (s : Setting) (place : Place) : Token :=
  s.tokens.tokens.getD (place.seen - 1) default

/-- A span in the surrounding text. -/
def shift (s : Setting) (span : Span) : Span :=
  { line := span.line + s.lineShift
    column := if span.line = 1 then span.column + s.columnShift else span.column
    endLine := span.endLine + s.lineShift
    endColumn := if span.endLine = 1 then span.endColumn + s.columnShift else span.endColumn }

/-- A span of the surrounding text in the tokens' own text. -/
def unshift (s : Setting) (span : Span) : Span :=
  { line := span.line - s.lineShift
    column := if span.line - s.lineShift = 1 then span.column - s.columnShift else span.column
    endLine := span.endLine - s.lineShift
    endColumn :=
      if span.endLine - s.lineShift = 1 then span.endColumn - s.columnShift else span.endColumn }

/-- Whether a token has characters of its own. -/
def isSolid (t : Token) : Bool :=
  match t.kind with
  | .newline | .indent | .dedent | .finish => false
  | _ => true

/-- The last token with characters before an index. -/
def lastSolid (tokens : Array Token) : Nat → Token
  | 0 => default
  | n + 1 =>
    let t := tokens.getD n default
    if isSolid t then t else lastSolid tokens n

/-- The span from the token at an index to the last one taken. -/
def spanSince (start : Nat) : Reader Span := fun s place =>
  let first := s.tokens.tokens.getD start default
  let last := lastSolid s.tokens.tokens place.index
  .found (shift s (first.span.upTo last.span)) place

/-- The span of a token in the surrounding text. -/
def tokenSpan (t : Token) : Reader Span := fun s place => .found (shift s t.span) place

/-- Refuses the source where reading stands. -/
def refuseHere (message : String) (kind : RefusalKind := .grammar) : Reader α := fun s place =>
  .refused
    { refusal := s.tokens.source.refuseHere (lastSeen s place) kind message
      seen := place.seen }

/-- Refuses words that are nested too deeply. -/
def tooDeep : Reader α := fun _ place =>
  .refused
    { refusal :=
        { kind := .exhausted, message := "", line := 0, offset := 0, text := none, endLine := 0
          endOffset := 0 }
      seen := place.seen, byWords := true }

/-- Refuses a stretch of source. -/
def refuseSpan (span : Span) (message : String) : Reader α := fun s place =>
  .refused
    { refusal := s.tokens.source.refuseSpan (lastSeen s place) .grammar message (unshift s span)
      seen := place.seen }

/-- Refuses the source from a place up to where reading stands. -/
def refuseFrom (span : Span) (message : String) : Reader α := fun s place =>
  let span := unshift s span
  let last := lastSeen s place
  .refused
    { refusal := s.tokens.source.refuse last .grammar message span.line (span.column + 1)
        last.readLine last.readColumn
      seen := place.seen }

/-- Refuses a token. -/
def refuseToken (t : Token) (message : String) : Reader α := fun s place =>
  .refused
    { refusal := s.tokens.source.refuseToken (lastSeen s place) .grammar message t
      seen := place.seen }

/-- Takes an operator that must be there. -/
def force (text : String) : Reader Token := do
  let t ← peek
  if t.kind == .operator && t.text == text then op text
  else refuseToken t s!"expected '{text}'"

/-- A type hint. -/
def hint (p : Reader Expr) : Reader Expr := fun s place =>
  match p s place with
  | .found e place => .found (if s.quotes then .mk e.span (.quoted e) else e) place
  | answer => answer

/-- Remembers which block is found at each place, which is `index` here. -/
@[noinline]
def rememberBlockAt (index : Nat) (p : Reader (List Stmt)) : Reader (List Stmt) := fun s place =>
  match place.blocks[index]? with
  | some (some (body, after)) => .found body { place with index := after }
  | some none => .absent place
  | none =>
    match p s place with
    | .found body after =>
      .found body { after with
        blocks := after.blocks.insert index (some (body, after.index)) }
    | .absent after => .absent { after with blocks := after.blocks.insert index none }
    | .refused stop => .refused stop

/-- Remembers which block is found at each place. -/
def rememberBlock (p : Reader (List Stmt)) : Reader (List Stmt) := fun s place =>
  rememberBlockAt place.index p s place

/-- Remembers which pattern is found at each place, which is `index` here. -/
@[noinline]
def rememberPatternAt (index : Nat) (p : Reader Pattern) : Reader Pattern := fun s place =>
  match place.patterns[index]? with
  | some (some (pattern, after)) => .found pattern { place with index := after }
  | some none => .absent place
  | none =>
    match p s place with
    | .found pattern after =>
      .found pattern { after with
        patterns := after.patterns.insert index (some (pattern, after.index)) }
    | .absent after => .absent { after with patterns := after.patterns.insert index none }
    | .refused stop => .refused stop

/-- Remembers which pattern is found at each place. -/
def rememberPattern (p : Reader Pattern) : Reader Pattern := fun s place =>
  rememberPatternAt place.index p s place

/-- Remembers what a rule finds at each place, which is `index` here. -/
@[noinline]
def rememberAt (rule : Nat) (index : Nat) (p : Reader Expr) : Reader Expr := fun s place =>
  match place.known[(rule, index)]? with
  | some (some (e, after)) => .found e { place with index := after }
  | some none => .absent place
  | none =>
    match p s place with
    | .found e after =>
      .found e { after with
        known := after.known.insert (rule, index) (some (e, after.index)) }
    | .absent after => .absent { after with known := after.known.insert (rule, index) none }
    | .refused stop => .refused stop

/-- Remembers what a rule finds at each place. -/
def remember (rule : Nat) (p : Reader Expr) : Reader Expr := fun s place =>
  rememberAt rule place.index p s place

end Reader

end SnippetRunner.Snippet
