import SnippetRunner.Snippet.Token
import SnippetRunner.Snippet.Token.Number
import SnippetRunner.Text.Identifier
import SnippetRunner.Text.Normal
import SnippetRunner.Text.Quoted

/-!
# From source text to tokens

Reading goes from token to token. It keeps the open brackets, inside which line ends do not
count, and the widths of the enclosing indentations, from whose changes the indent and dedent
tokens come. The first thing that cannot be read ends the tokens with a fault.
-/

namespace SnippetRunner.Snippet

/-- An open bracket and its place. -/
structure Bracket where
  opening : Char
  line : Nat
  column : Nat
  deriving Repr, DecidableEq

/-- Why reading stopped. -/
inductive LexFault where
  /-- A refusal of its own, which also replaces an error found before it. -/
  | refused (refusal : Refusal)
  /-- A refusal that is reported only when reading gets there: at a column of the line, or else
  where reading stands. -/
  | reported (kind : RefusalKind) (message : String) (column? : Option Nat)
  /-- The text ended inside brackets. -/
  | unclosed (bracket : Bracket)
  deriving Repr

/-- The state of reading. -/
structure Lexer where
  rest : List Char
  line : Nat := 0
  column : Nat := 0
  /-- Whether the line's end has been read. -/
  ended : Bool := true
  shownLine : Nat := 0
  lineStart : Bool := true
  indents : List (Nat × Nat) := [(0, 0)]
  pendingIndent : Bool := false
  pendingDedents : Nat := 0
  brackets : List Bracket := []
  blankLine : Bool := false

namespace Lexer

/-- Goes on to the next line if the current one has been read; inside a token the text shown for
errors keeps its first line. -/
def enterLine (s : Lexer) (insideToken : Bool) : Lexer :=
  if s.ended && ! s.rest.isEmpty then
    { s with
      line := s.line + 1
      column := 0
      ended := false
      shownLine := if insideToken then s.shownLine else s.line + 1 }
  else s

/-- Reads one character of the current line. -/
def advance (s : Lexer) : Lexer :=
  match s.rest with
  | [] => s
  | c :: rest => { s with rest, column := s.column + c.utf8Size, ended := c == '\n' }

/-- Reads several characters of the current line. -/
def advanceBy : Nat → Lexer → Lexer
  | 0, s => s
  | n + 1, s => advanceBy n s.advance

/-- The number of open brackets. -/
def depth (s : Lexer) : Nat := s.brackets.length

/-- A token from a state of reading to another. -/
def tokenTo (start stop : Lexer) (kind : TokenKind) (text : String) : Token :=
  { kind, text
    line := start.line, column := some start.column
    endLine := stop.line, endColumn := some stop.column
    depth := stop.depth
    readLine := stop.line, readColumn := stop.column, shownLine := stop.shownLine }

/-- A token without characters. -/
def bareToken (s : Lexer) (kind : TokenKind) : Token :=
  { kind, text := "", line := s.line, column := none, endLine := s.line, endColumn := none
    depth := s.depth, readLine := s.line, readColumn := s.column, shownLine := s.shownLine }

/-- What is wrong when the text ends after a continued line: an open bracket, or else the end
itself. -/
def endFault (s : Lexer) : LexFault :=
  match s.brackets with
  | [] => .reported .grammar "unexpected EOF while parsing" none
  | bracket :: _ => .unclosed bracket

/-- A refusal of its own: at the number of characters read on the line. -/
def refusal (src : SourceText) (s : Lexer) (message : String) : LexFault :=
  let text := src.line s.line
  .refused
    { message, line := s.line, endLine := s.line, endOffset := -1
      text := some text
      offset := charsInBytes s.column text.toList }

/-! ## Indentation -/

/-- The width of a line's leading blanks, with tabs to the next multiple of eight and, in the
second measure, of one; and the state after them. The blanks before the first backslash that
continues the line count alone, if there are any; their number is `first`. -/
def measure : Nat → Nat → Nat → Nat → Lexer → Except LexFault (Nat × Nat × Lexer)
  | 0, _, width, narrow, s => .ok (width, narrow, s)
  | fuel + 1, first, width, narrow, s =>
    match s.rest with
    | ' ' :: _ => measure fuel first (width + 1) (narrow + 1) s.advance
    | '\t' :: _ => measure fuel first ((width / 8 + 1) * 8) (narrow + 1) s.advance
    | '\x0c' :: _ => measure fuel first 0 0 s.advance
    | '\\' :: '\n' :: more =>
      let s := s.advance.advance
      if more.isEmpty then .error s.endFault
      else measure fuel (if first = 0 then width else first) width narrow (s.enterLine false)
    | '\\' :: _ =>
      .error (.reported .grammar "unexpected character after line continuation character"
        (some (s.column + 1)))
    | _ => .ok (if first = 0 then (width, narrow, s) else (first, first, s))

/-- The enclosing indentations that a line of the given width leaves open, and how many it
closes. -/
def closeIndents (width : Nat) : List (Nat × Nat) → Nat × List (Nat × Nat)
  | [] => (0, [])
  | [last] => (0, [last])
  | (w, n) :: outer =>
    if width < w then
      let (closed, left) := closeIndents width outer
      (closed + 1, left)
    else (0, (w, n) :: outer)

/-- The fault of a mixture of tabs and blanks. -/
def tabFault : LexFault :=
  .reported .tabs "inconsistent use of tabs and spaces in indentation" (some 0)

/-- The rest of a line is skipped. -/
def skipLine (s : Lexer) : Lexer :=
  let body := s.rest.takeWhile (· != '\n')
  { s with
    rest := s.rest.drop (body.length + 1)
    column := s.column + (body.foldl (fun n c => n + c.utf8Size) 0) + 1
    ended := true }

/-- Compares a line's width with the enclosing indentations. -/
def indentTo (width narrow : Nat) (s : Lexer) : Except LexFault Lexer :=
  match s.indents with
  | [] => .ok s
  | (w, n) :: _ =>
    if width = w then
      if narrow = n then .ok s else .error tabFault
    else if w < width then
      if 100 ≤ s.indents.length then
        .error (.reported .indentation "too many levels of indentation" (some 0))
      else if narrow ≤ n then .error tabFault
      else .ok { s with indents := (width, narrow) :: s.indents, pendingIndent := true }
    else
      let (closed, left) := closeIndents width s.indents
      match left with
      | (w, n) :: _ =>
        if width ≠ w then
          .error (.reported .indentation
            "unindent does not match any outer indentation level" none)
        else if narrow ≠ n then .error tabFault
        else .ok { s with indents := left, pendingDedents := closed }
      | [] => .ok s

/-- At the start of a line: reads its indentation, unless the line is blank or a comment. -/
def startLine (s : Lexer) : Except LexFault Lexer := do
  let s := { s with lineStart := false, blankLine := false }
  let (width, narrow, s) ← measure (s.rest.length + 1) 0 0 0 s
  match s.rest with
  | '#' :: _ => return { s with blankLine := true }
  | '\n' :: _ => return { s with blankLine := true }
  | _ =>
    if s.brackets.isEmpty then
      match indentTo width narrow s with
      | .ok s => return s
      | .error fault =>
        -- the whole line has been read when its indentation is refused
        throw fault
    else return s

/-! ## Tokens with characters -/

/-- The prefixes of string literals. -/
def isStringPrefix (cs : List Char) : Bool :=
  ["b", "u", "r", "f", "br", "rb", "fr", "rf"].contains
    (String.ofList (cs.map Char.toLower))

/-- A name or keyword. -/
def readName (src : SourceText) (s : Lexer) : Except LexFault (Token × Lexer) :=
  let body := s.rest.takeWhile mayContinueName
  let after := s.advanceBy body.length
  let text := String.ofList body
  let firstBad := match body with
    | [] => 0
    | c :: more =>
      if Text.isNameStart c then 1 + (more.takeWhile Text.isNameContinue).length else 0
  match body[firstBad]? with
  | none =>
    let kind := if keywords.contains text then TokenKind.keyword else .name
    .ok (tokenTo s after kind (Text.normalName text), after)
  | some bad =>
    let code := (Text.padLeft 4 '0' (Text.hexText bad.toNat)).map Char.toUpper
    let message :=
      if Text.isPrintable bad then s!"invalid character '{bad}' (U+{code})"
      else s!"invalid non-printable character U+{code}"
    .error (refusal src (s.advanceBy (firstBad + 1)) message)

/-- Reads to the end of a string after its opening quotes; `run` counts the closing quotes just
read. `none` when the text or the line ends first. -/
def stringEnd (quote : Char) (size : Nat) : Nat → Nat → Lexer → Except Lexer Lexer
  | 0, _, s => .error s
  | fuel + 1, run, s =>
    if run = size then .ok s
    else
      let s := s.enterLine true
      match s.rest with
      | [] => .error s
      | c :: more =>
        if c == '\n' && size == 1 then .error s
        else if c == quote then stringEnd quote size fuel (run + 1) s.advance
        else if c == '\\' then
          let s := s.advance.enterLine true
          if more.isEmpty then .error s else stringEnd quote size fuel 0 s.advance
        else stringEnd quote size fuel 0 s.advance

/-- A string literal; `before` is the state at its prefix, `s` at its opening quote. -/
def readString (src : SourceText) (before s : Lexer) (quote : Char) :
    Except LexFault (Token × Lexer) :=
  let triple := match s.rest with
    | _ :: b :: c :: _ => b == quote && c == quote
    | _ => false
  let size := if triple then 3 else 1
  let opened := s.advanceBy size
  match stringEnd quote size (s.rest.length + 2) 0 opened with
  | .ok after =>
    let length := before.rest.length - after.rest.length
    let text := String.ofList (before.rest.take length)
    .ok (tokenTo before after .string text, after)
  | .error stop =>
    let words := if triple then "unterminated triple-quoted string literal"
      else "unterminated string literal"
    .error (refusal src before.advance s!"{words} (detected at line {stop.line})")

/-- The bracket that closes an opening one. -/
def closing (opening : Char) : Char :=
  if opening == '(' then ')' else if opening == '[' then ']' else '\x7d'

/-- Keeps the open brackets after an operator. -/
def track (src : SourceText) (before after : Lexer) (c : Char) : Except LexFault Lexer :=
  if c == '(' || c == '[' || c == '\x7b' then
    if 200 ≤ after.depth then .error (refusal src after "too many nested parentheses")
    else .ok { after with brackets := ⟨c, before.line, before.column⟩ :: after.brackets }
  else if c == ')' || c == ']' || c == '\x7d' then
    match after.brackets with
    | [] => .error (refusal src after s!"unmatched '{c}'")
    | open_ :: outer =>
      if closing open_.opening == c then .ok { after with brackets := outer }
      else
        let words :=
          s!"closing parenthesis '{c}' does not match opening parenthesis '{open_.opening}'"
        let place := if open_.line = after.line then "" else s!" on line {open_.line}"
        .error (refusal src { after with brackets := outer } (words ++ place))
  else .ok after

/-- An operator or another single character. -/
def readOperator (src : SourceText) (s : Lexer) (c : Char) : Except LexFault (Token × Lexer) :=
  let three := String.ofList (s.rest.take 3)
  let two := String.ofList (s.rest.take 2)
  if longOperators.contains three then
    let after := s.advanceBy 3
    .ok (tokenTo s after .operator three, after)
  else if pairOperators.contains two then
    let after := s.advanceBy 2
    .ok (tokenTo s after .operator two, after)
  else do
    let after ← track src s s.advance c
    if singleOperators.contains c then
      return (tokenTo s after .operator c.toString, after)
    else if Text.isPrintable c then
      return (tokenTo s after .unknown c.toString, after)
    else
      let code := (Text.padLeft 4 '0' (Text.hexText c.toNat)).map Char.toUpper
      throw (refusal src after s!"invalid non-printable character U+{code}")

/-- A number. -/
def readNumber (src : SourceText) (s : Lexer) : Except LexFault (Token × Lexer) :=
  match scanNumber s.rest with
  | .ok n =>
    let after := s.advanceBy n
    .ok (tokenTo s after .number (String.ofList (s.rest.take n)), after)
  | .error fault =>
    match refusal src (s.advanceBy fault.consumed) fault.message, fault.range with
    | .refused r, some (first, last) =>
      -- such a place is counted in bytes
      .error (.refused { r with offset := s.column + first, endOffset := s.column + last })
    | other, _ => .error other

/-- The token that starts with a character that is neither blank nor a line's end. -/
def readWord (src : SourceText) (s : Lexer) (c : Char) : Except LexFault (Token × Lexer) :=
  if c == '"' || c == '\'' then readString src s s c
  else if mayContinueName c && ! c.isDigit then
    let letters := s.rest.takeWhile fun c => c.isAlpha
    match (s.rest.drop letters.length).head? with
    | some quote =>
      if (quote == '"' || quote == '\'') && isStringPrefix letters then
        readString src s (s.advanceBy letters.length) quote
      else readName src s
    | none => readName src s
  else if c.isDigit then readNumber src s
  else if c == '.' && ((s.rest.drop 1).head?.any Char.isDigit) then readNumber src s
  else readOperator src s c

/-- A state in which everything up to the end of the current line has been read. -/
def readAll (s : Lexer) : Lexer := if s.ended then s else s.skipLine

/-- The next token. Blank lines and comments are skipped, so a token may need several rounds. -/
def next (src : SourceText) : Nat → Lexer → Except (LexFault × Lexer) (Token × Lexer)
  | 0, s => .error (.reported .grammar "unknown parsing error" none, s)
  | fuel + 1, s =>
    if s.pendingIndent then .ok (bareToken s .indent, { s with pendingIndent := false })
    else if 0 < s.pendingDedents then
      .ok (bareToken s .dedent, { s with pendingDedents := s.pendingDedents - 1 })
    else if s.lineStart then
      let s := s.enterLine false
      if s.rest.isEmpty then
        -- the end of the text closes all indentations
        let s := { s with lineStart := false }
        if s.brackets.isEmpty then
          next src fuel { s with
            indents := s.indents.drop (s.indents.length - 1)
            pendingDedents := s.indents.length - 1 }
        else next src fuel s
      else match startLine s with
        | .ok s => next src fuel s
        | .error fault => .error (fault, s.readAll)
    else
      let s := s.enterLine false
      match s.rest with
      | [] =>
        match s.brackets with
        | [] => .ok (bareToken s .finish, s)
        | bracket :: _ => .error (.unclosed bracket, s)
      | c :: more =>
        if c == ' ' || c == '\t' || c == '\x0c' then next src fuel s.advance
        else if c == '#' || c == '\n' then
          -- a comment belongs to the token of its line's end
          let stop := s.advanceBy (s.rest.takeWhile (· != '\n')).length
          let after := { stop.advance with lineStart := true }
          if s.blankLine || ! s.brackets.isEmpty then next src fuel after
          else
            let token := tokenTo s stop .newline ""
            .ok ({ token with readColumn := after.column }, after)
        else if c == '\\' then
          match more with
          | '\n' :: [] =>
            .error (s.endFault, s.advance.advance)
          | '\n' :: _ => next src fuel (s.advance.advance.enterLine true)
          | _ =>
            .error (.reported .grammar "unexpected character after line continuation character"
              (some (s.column + 1)), s.advance)
        else match readWord src s c with
          | .ok (token, after) => .ok (token, after)
          | .error fault => .error (fault, s)

end Lexer

/-- The tokens of a source up to the first fault, and the fault. After a fault `stop` tells where
reading stood; it is a token of no class. -/
structure Tokens where
  source : SourceText
  tokens : Array Token
  fault : Option (LexFault × Token)
  deriving Inhabited

/-- Reads tokens until the end or a fault. -/
def Tokens.readFrom (src : SourceText) (rounds : Nat) : Nat → Lexer → Array Token → Tokens
  | 0, _, done => ⟨src, done, none⟩
  | fuel + 1, s, done =>
    match s.next src rounds with
    | .error (fault, stop) => ⟨src, done, some (fault, Lexer.bareToken stop .unknown)⟩
    | .ok (token, s) =>
      let done := done.push token
      if token.kind == .finish then ⟨src, done, none⟩ else readFrom src rounds fuel s done

/-- The tokens of a source text. -/
def Tokens.ofString (text : String) : Tokens :=
  let src := SourceText.ofString text
  let chars := src.lines.foldr (fun line cs => line.toList ++ '\n' :: cs) []
  let size := chars.length
  Tokens.readFrom src (3 * size + 10) (2 * size + 10) { rest := chars } #[]

end SnippetRunner.Snippet
