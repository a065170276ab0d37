import SnippetRunner.Document.Yaml.Scan

/-!
# Scalars

The text of a scalar in its three forms: indented lines, a text in quotes, and a plain text. Line
breaks inside it are folded as each form has it.
-/

namespace SnippetRunner.Document.Yaml

namespace Scan

/-! ## Block scalars -/

/-- What becomes of the line breaks at the end of a block scalar. -/
inductive Chomping where
  | clip
  | keep
  | strip
  deriving Repr, DecidableEq

/-- Reads a chomping indicator. -/
def chomping? (c : Char) : Option Chomping :=
  if c == '+' then some .keep else if c == '-' then some .strip else none

/-- Takes the indicators of a block scalar, in either order. -/
def blockHeader : Scan (Chomping × Option Nat) := do
  let digit : Scan (Option Nat) := do
    let c ← peek
    if c.isDigit then
      require (c != '0')
      forward 1
      return some (c.toNat - '0'.toNat)
    else return none
  let sign : Scan (Option Chomping) := do
    match chomping? (← peek) with
    | some c =>
      forward 1
      return some c
    | none => return none
  match ← sign with
  | some c =>
    let increment ← digit
    require (isSpaceOrEnd (← peek))
    return (c, increment)
  | none =>
    let increment ← digit
    let c ← if increment.isSome then sign else pure none
    require (isSpaceOrEnd (← peek))
    return (c.getD .clip, increment)

/-- Takes line breaks and spaces before a block scalar's first line: the breaks, and the deepest
column that was met. -/
def leadingBreaks (deepest : Nat) : Nat → Scan (List Char × Nat)
  | 0 => return ([], deepest)
  | fuel + 1 => do
    let c ← peek
    if c == ' ' then
      forward 1
      leadingBreaks (max deepest (← get).column) fuel
    else if isBreak c then
      let lineEnd ← lineBreak
      let (more, deepest) ← leadingBreaks deepest fuel
      return (lineEnd ++ more, deepest)
    else return ([], deepest)

/-- Takes spaces up to a column. -/
def spacesTo (column : Nat) : Scan Unit := do
  let s ← get
  forward ((s.rest.take (column - s.column)).takeWhile (· == ' ')).length

/-- Takes empty lines, and the spaces up to a column after each. -/
def blockBreaks (column : Nat) : Nat → Scan (List Char)
  | 0 => return []
  | fuel + 1 => do
    spacesTo column
    if isBreak (← peek) then
      let lineEnd ← lineBreak
      return lineEnd ++ (← blockBreaks column fuel)
    else return []

/-- Takes the lines of a block scalar that are indented to a column, with the empty lines before
each: its text, the last line break, and the empty lines after it. -/
def blockLines (folded : Bool) (column : Nat) (breaks : List Char) :
    Nat → Scan (List Char × List Char × List Char)
  | 0 => return ([], [], breaks)
  | fuel + 1 => do
    if (← get).column == column && (← peek) != '\x00' then
      let first ← peek
      let startsPlain := first != ' ' && first != '\t'
      let line ← takeWhile fun c => ! isLineEnd c
      let lineEnd ← lineBreak
      let after ← blockBreaks column (← Scan.fuel)
      let next ← peek
      if (← get).column == column && next != '\x00' then
        let joint :=
          if folded && lineEnd == ['\n'] && startsPlain && next != ' ' && next != '\t' then
            if after.isEmpty then [' '] else []
          else lineEnd
        let (more, final, last) ← blockLines folded column after fuel
        return (breaks ++ line ++ joint ++ more, final, last)
      else return (breaks ++ line, lineEnd, after)
    else return ([], [], breaks)

/-- Takes a block scalar. -/
def blockScalar (folded : Bool) : Scan Unit := do
  forward 1
  let (chomping, increment) ← blockHeader
  restOfLine
  let s ← get
  let least := (max (s.indent + 1) 1).toNat
  let fuel ← Scan.fuel
  let (breaks, column) ← match increment with
    | none => do
      let (breaks, deepest) ← leadingBreaks 0 fuel
      pure (breaks, max least deepest)
    | some n => do
      let column := least + n - 1
      pure (← blockBreaks column fuel, column)
  let (text, final, after) ← blockLines folded column breaks fuel
  let ending := match chomping with
    | .strip => []
    | .clip => final
    | .keep => final ++ after
  emit (.scalar (String.ofList (text ++ ending)) .quoted)

/-! ## Quoted scalars -/

/-- The character that a letter after a backslash stands for. -/
def letterEscape? (c : Char) : Option Char :=
  ([('0', '\x00'), ('a', '\x07'), ('b', '\x08'), ('t', '\t'), ('\t', '\t'), ('n', '\n'),
    ('v', '\x0b'), ('f', '\x0c'), ('r', '\r'), ('e', '\x1b'), (' ', ' '), ('"', '"'),
    ('\\', '\\'), ('/', '/'), ('N', '\x85'), ('_', '\xa0'), ('L', '\u2028'),
    ('P', '\u2029')].find? (·.1 == c)).map (·.2)

/-- How many digits follow a letter after a backslash. -/
def codeLength? (c : Char) : Option Nat :=
  if c == 'x' then some 2 else if c == 'u' then some 4 else if c == 'U' then some 8 else none

/-- A digit of base sixteen. -/
def isHexDigit (c : Char) : Bool :=
  c.isDigit || ('a' ≤ c && c ≤ 'f') || ('A' ≤ c && c ≤ 'F')

/-- The number that digits of base sixteen stand for. -/
def hexNumber (cs : List Char) : Nat :=
  cs.foldl (fun n c =>
    16 * n + (if c.isDigit then c.toNat - 48
      else if 'a' ≤ c then c.toNat - 87 else c.toNat - 55)) 0

/-- Takes empty lines inside a quoted scalar. -/
def quotedBreaks : Nat → Scan (List Char)
  | 0 => return []
  | fuel + 1 => do
    require (! (← isSeparator))
    let _ ← takeWhile fun c => c == ' ' || c == '\t'
    if isBreak (← peek) then
      let lineEnd ← lineBreak
      return lineEnd ++ (← quotedBreaks fuel)
    else return []

/-- Takes what a backslash stands for. -/
def escape (fuel : Nat) : Scan (List Char) := do
  forward 1
  let c ← peek
  match letterEscape? c, codeLength? c with
  | some stood, _ =>
    forward 1
    return [stood]
  | none, some n =>
    forward 1
    let digits ← ahead n
    require (digits.length == n && digits.all isHexDigit)
    forward n
    let code := hexNumber digits
    if 0x10ffff < code then throw (.noCharacter code)
    else return [Char.ofNat code]
  | none, none =>
    require (isBreak c)
    let _ ← lineBreak
    quotedBreaks fuel

/-- Whether a character of a quoted scalar stands for itself wherever it is. -/
def isPlainQuoted (c : Char) : Bool :=
  ! (c == '\'' || c == '"' || c == '\\' || isGap c)

/-- Takes a stretch of a quoted scalar without blanks. -/
def quotedWord (double : Bool) : Nat → Scan (List Char)
  | 0 => return []
  | fuel + 1 => do
    let word ← takeWhile isPlainQuoted
    let c ← peek
    if ! double && c == '\'' && (← peekAt 1) == '\'' then
      forward 2
      return word ++ '\'' :: (← quotedWord double fuel)
    else if (double && c == '\'') || (! double && (c == '"' || c == '\\')) then
      forward 1
      return word ++ c :: (← quotedWord double fuel)
    else if double && c == '\\' then
      let stood ← escape fuel
      return word ++ stood ++ (← quotedWord double fuel)
    else return word

/-- Takes blanks inside a quoted scalar: a line break between words stands for a space, and each
empty line for a newline. -/
def quotedGap (fuel : Nat) : Scan (List Char) := do
  let blanks ← takeWhile fun c => c == ' ' || c == '\t'
  let c ← peek
  require (c != '\x00')
  if isBreak c then
    let lineEnd ← lineBreak
    let breaks ← quotedBreaks fuel
    if lineEnd != ['\n'] then return lineEnd ++ breaks
    else return if breaks.isEmpty then [' '] else breaks
  else return blanks

/-- Takes the inside of a quoted scalar. -/
def quotedText (double : Bool) (quote : Char) : Nat → Scan (List Char)
  | 0 => malformed
  | fuel + 1 => do
    let word ← quotedWord double fuel.succ
    if (← peek) == quote then return word
    else
      let gap ← quotedGap fuel.succ
      return word ++ gap ++ (← quotedText double quote fuel)

/-- Takes a quoted scalar. -/
def quotedScalar (double : Bool) : Scan Unit := do
  let quote := if double then '"' else '\''
  forward 1
  let text ← quotedText double quote (← Scan.fuel)
  forward 1
  emit (.scalar (String.ofList text) .quoted)

/-! ## Plain scalars -/

/-- A character that opens, closes or separates in a flow collection. -/
def isFlowMark (c : Char) : Bool := [',', '[', ']', '\x7b', '\x7d'].contains c

/-- The characters of a plain scalar up to the next gap or mark. -/
def plainWord (inFlow : Bool) : List Char → List Char
  | [] => []
  | c :: rest =>
    let next := rest.headD '\x00'
    if isGap c || (c == ':' && (isGap next || (inFlow && isFlowMark next)))
        || (inFlow && (c == '?' || isFlowMark c)) then []
    else c :: plainWord inFlow rest

/-- Takes empty lines and spaces between the lines of a plain scalar; nothing if a document
begins or ends there. -/
def plainBreaks : Nat → Scan (Option (List Char))
  | 0 => return some []
  | fuel + 1 => do
    let c ← peek
    if c == ' ' then
      forward 1
      plainBreaks fuel
    else if isBreak c then
      let lineEnd ← lineBreak
      if ← isSeparator then return none
      else return (← plainBreaks fuel).map (lineEnd ++ ·)
    else return some []

/-- Takes the gap after a word of a plain scalar. -/
def plainGap : Scan (List Char) := do
  let blanks ← takeWhile (· == ' ')
  if isBreak (← peek) then
    let lineEnd ← lineBreak
    allowKey true
    if ← isSeparator then return []
    else
      match ← plainBreaks (← Scan.fuel) with
      | none => return []
      | some breaks =>
        if lineEnd != ['\n'] then return lineEnd ++ breaks
        else return if breaks.isEmpty then [' '] else breaks
  else return blanks

/-- Takes the words of a plain scalar with the gaps between them. -/
def plainText (gap : List Char) : Nat → Scan (List Char)
  | 0 => return []
  | fuel + 1 => do
    let s ← get
    let word := if s.rest.head? == some '#' then [] else plainWord (s.flow != 0) s.rest
    if (← peekAt word.length) == ':' then
      let _ ← peekAt (word.length + 1)
    if word.isEmpty then return []
    else
      allowKey false
      forward word.length
      let next ← plainGap
      let s ← get
      if next.isEmpty || s.rest.head? == some '#'
          || (s.flow = 0 && (s.column : Int) < s.indent + 1) then
        return gap ++ word
      else return gap ++ word ++ (← plainText next fuel)

/-- Takes a plain scalar. -/
def plainScalar : Scan Unit := do
  let text ← plainText [] (← Scan.fuel)
  emit (.scalar (String.ofList text) .plain)

end Scan

end SnippetRunner.Document.Yaml
