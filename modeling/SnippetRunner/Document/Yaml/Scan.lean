import SnippetRunner.Data
import SnippetRunner.Number.Reading

/-!
# Scanning

A text is read in blocks as it is needed, the first two of them at once. Each must hold only
characters that a document may hold; a document ends before the first block that does not, and
before the place from which it cannot be read. A refusal says why an indented document cannot be
read, and what a caller is told about it.

Tokens are what the characters of a document say one after another: where collections begin and
end, keys and values, scalars, and the marks before them. What is kept while the characters are
read is the place, the tokens so far, the indentation, and the tokens that may turn out to begin a
key. Deeper indentation opens a collection of its own.
-/

namespace SnippetRunner.Document.Yaml

/-! ## The text of a document -/

/-- Why a text is no document. -/
inductive Refusal where
  /-- It breaks the rules of the notation. -/
  | malformed
  /-- The text cannot be read to its end. -/
  | unreadable
  /-- Nodes are nested too deeply. -/
  | tooDeep
  /-- A character is written by a number that no character has. -/
  | noCharacter (code : Nat)
  /-- What is marked or written as an integer is none. -/
  | noInteger (base : Nat) (text : String)
  | longInteger (digits : Nat)
  | noFloat (text : String)
  | noTruth (text : String)
  /-- What is marked as a number has no digits. -/
  | noDigits
  /-- What is marked as a date is none. -/
  | noDate
  /-- What is marked as a date has its parts in a mapping. -/
  | spreadDate
  | noMoment (complaint : String)
  deriving Repr, DecidableEq

/-- What a caller is told, if a refusal is not just that the notation is broken. -/
def Refusal.problem? : Refusal → Option Problem
  | .malformed | .unreadable => none
  | .tooDeep => some ⟨"RecursionError", "maximum recursion depth exceeded"⟩
  | .noCharacter code =>
    if code < Number.twoTo 31 then some ⟨"ValueError", "chr() arg not in range(0x110000)"⟩
    else some ⟨"OverflowError", "Python int too large to convert to C int"⟩
  | .noInteger base text => some ⟨"ValueError", Number.IntFault.malformed.complaint base text⟩
  | .longInteger digits => some ⟨"ValueError", (Number.IntFault.tooLong digits).complaint 10 ""⟩
  | .noFloat text => some ⟨"ValueError", Number.floatComplaint text⟩
  | .noTruth word => some ⟨"KeyError", Text.quoted word⟩
  | .noDigits => some ⟨"IndexError", "string index out of range"⟩
  | .noDate => some ⟨"AttributeError", "'NoneType' object has no attribute 'groupdict'"⟩
  | .spreadDate => some ⟨"TypeError", "expected string or bytes-like object, got 'list'"⟩
  | .noMoment complaint => some ⟨"ValueError", complaint⟩

/-- A character that a document may hold. -/
def isAdmissible (c : Char) : Bool :=
  let n := c.toNat
  n == 9 || n == 10 || n == 13 || (0x20 ≤ n && n ≤ 0x7e) || n == 0x85
    || (0xa0 ≤ n && n ≤ 0xfffd) || 0x10000 ≤ n

/-- A text as far as it can be read, and what is met after it if that is not its end. -/
structure Source where
  text : List Char
  fault : Option Refusal := none

namespace Source

/-- Adds blocks up to the first one with a character that no document may hold. -/
def withBlocks (s : Source) : List (List Char) → Source
  | [] => s
  | block :: rest =>
    if block.all isAdmissible then { s with text := s.text ++ block }.withBlocks rest
    else { s with fault := some .malformed }

/-- The text of blocks; `broken` tells whether there is something after them that cannot be
read. -/
def ofBlocks (blocks : List (List Char)) (broken : Bool) : Source :=
  let end_ : Source := ⟨[], if broken then some .unreadable else none⟩
  match blocks with
  | first :: second :: rest => end_.withBlocks ((first ++ second) :: rest)
  | _ => if broken then end_ else end_.withBlocks blocks

/-- The text without the mark at its beginning. -/
def unmarked (s : Source) : Source :=
  match s.text with
  | '\ufeff' :: rest => { s with text := rest }
  | _ => s

end Source

/-! ## Tokens -/

/-- How a scalar is written. -/
inductive ScalarStyle where
  | plain
  | quoted
  deriving Repr, DecidableEq

/-- A token. -/
inductive Token where
  | directive (name : String) (value : String × String)
  | documentStart
  | documentEnd
  | blockSequence
  | blockMapping
  | blockEnd
  | flowSequence
  | flowSequenceEnd
  | flowMapping
  | flowMappingEnd
  | flowEntry
  | entry
  | key
  | value
  | reference (name : String)
  | anchor (name : String)
  /-- A tag with the handle before it, if it has one. -/
  | tag (handle : Option String) (suffix : String)
  | scalar (text : String) (style : ScalarStyle)
  deriving Repr, DecidableEq

/-- A place in the tokens where a key may turn out to begin. -/
structure PossibleKey where
  /-- How many tokens stand before it. -/
  token : Nat
  /-- Whether it has to be a key. -/
  required : Bool
  index : Nat
  line : Nat
  column : Nat
  deriving Repr

/-- A document that is being read. -/
structure Scanner where
  rest : List Char
  /-- What is met after these characters, if that is not the end of the document. -/
  fault : Option Refusal := none
  /-- How many characters the text has. -/
  size : Nat := rest.length
  index : Nat := 0
  line : Nat := 0
  column : Nat := 0
  tokens : Array Token := #[]
  /-- How many tokens could be handed out before the one that is being read. -/
  ready : Nat := 0
  /-- How many flow collections are open. -/
  flow : Nat := 0
  indent : Int := -1
  indents : List Int := []
  /-- Whether a key may begin here. -/
  keyAllowed : Bool := true
  /-- Possible keys, by the number of open flow collections. -/
  possible : List (Nat × PossibleKey) := []

/-- Whether a possible key is too far back. -/
def Scanner.isStale (s : Scanner) (k : PossibleKey) : Bool :=
  k.line != s.line || 1024 < s.index - k.index

/-- A part of the reading. -/
abbrev Scan := EStateM Refusal Scanner

namespace Scan

/-! ## Characters -/

/-- A character that ends a line. -/
def isBreak (c : Char) : Bool :=
  c == '\r' || c == '\n' || c == '\x85' || c == '\u2028' || c == '\u2029'

/-- The end of the document or of a line. -/
def isLineEnd (c : Char) : Bool := c == '\x00' || isBreak c

/-- What can follow an indicator: a blank or the end of a line. -/
def isGap (c : Char) : Bool := c == ' ' || c == '\t' || isLineEnd c

/-- What can follow a tag or a header: a space or the end of a line. -/
def isSpaceOrEnd (c : Char) : Bool := c == ' ' || isLineEnd c

/-- A character of a name. -/
def isNameChar (c : Char) : Bool := c.isAlphanum || c == '-' || c == '_'

/-- Refuses the document. -/
def malformed {α : Type} : Scan α := throw .malformed

/-- Refuses the document unless a condition holds. -/
def require (condition : Bool) : Scan Unit := if condition then return () else malformed

/-- Fails if it is not the end of the document that is met after the characters. -/
def atEnd : Scan Unit := do
  match (← get).fault with
  | some refusal => throw refusal
  | none => return

/-- The character a number of places ahead; a zero character past the end. -/
def peekAt (n : Nat) : Scan Char := do
  match (← get).rest.drop n with
  | c :: _ => return c
  | [] =>
    atEnd
    return '\x00'

/-- A number above that of the characters that are left. -/
def fuel : Scan Nat := do
  let s ← get
  return s.size - s.index + 1

/-- The next character. -/
def peek : Scan Char := peekAt 0

/-- At most some characters from the next one on. -/
def ahead (n : Nat) : Scan (List Char) := do
  let cs := (← get).rest.take n
  if cs.length < n then atEnd
  return cs

/-- Goes past a character. -/
def pass (s : Scanner) : Scanner :=
  match s.rest with
  | [] => s
  | c :: rest =>
    let s := { s with rest, index := s.index + 1 }
    if c == '\n' || c == '\x85' || c == '\u2028' || c == '\u2029'
        || (c == '\r' && rest.head? != some '\n') then
      { s with line := s.line + 1, column := 0 }
    else if c != '\ufeff' then { s with column := s.column + 1 }
    else s

/-- Goes past some characters. -/
def forward (n : Nat) : Scan Unit := do
  modify fun s => Nat.repeat pass n s
  if (← get).rest.isEmpty then atEnd

/-- Takes the characters ahead that pass a test. -/
def takeWhile (test : Char → Bool) : Scan (List Char) := do
  let word := (← get).rest.takeWhile test
  forward word.length
  return word

/-- Goes past a line break, if one is next: it stands for a newline, but the separators of lines
and paragraphs stand for themselves. -/
def lineBreak : Scan (List Char) := do
  let c ← peek
  if c == '\u2028' || c == '\u2029' then
    forward 1
    return [c]
  else if isBreak c then
    forward (if c == '\r' && (← peekAt 1) == '\n' then 2 else 1)
    return ['\n']
  else return []

/-- Goes past blanks and a comment to the end of the line. -/
def restOfLine : Scan Unit := do
  let _ ← takeWhile (· == ' ')
  if (← peek) == '#' then
    let _ ← takeWhile fun c => ! isLineEnd c
  require (isLineEnd (← peek))
  let _ ← lineBreak

/-- Adds a token. -/
def emit (t : Token) : Scan Unit := modify fun s => { s with tokens := s.tokens.push t }

/-- Whether three equal characters and a gap are next, as they begin or end a document. -/
def isSeparator : Scan Bool := do
  let next ← ahead 3
  if next == ['-', '-', '-'] || next == ['.', '.', '.'] then return isGap (← peekAt 3)
  else return false

/-! ## Possible keys and indentation -/

/-- Drops possible keys that are too far back; one that had to be a key is an error. -/
def dropStale : Scan Unit := do
  let s ← get
  require (! s.possible.any fun (_, k) => s.isStale k && k.required)
  set { s with possible := s.possible.filter fun (_, k) => ! s.isStale k }

/-- Drops the possible key of the current flow level. -/
def dropPossible : Scan Unit := do
  let s ← get
  require (! s.possible.any fun (level, k) => level == s.flow && k.required)
  set { s with possible := s.possible.filter (·.1 != s.flow) }

/-- Notes that a key may begin here. -/
def notePossible : Scan Unit := do
  if (← get).keyAllowed then
    dropPossible
    modify fun s =>
      let required := s.flow = 0 && s.indent == s.column
      { s with possible :=
          (s.flow, ⟨s.tokens.size, required, s.index, s.line, s.column⟩) :: s.possible }

/-- Says whether a key may begin next. -/
def allowKey (allowed : Bool) : Scan Unit := modify fun s => { s with keyAllowed := allowed }

/-- The number of block collections that are indented deeper than a column, with what is left of
the indents. -/
def unwound (column : Int) (indent : Int) : List Int → Nat × Int × List Int
  | [] => if column < indent then (1, -1, []) else (0, indent, [])
  | outer :: more =>
    if column < indent then
      let (n, indent, indents) := unwound column outer more
      (n + 1, indent, indents)
    else (0, indent, outer :: more)

/-- Ends the block collections that are indented deeper than a column. -/
def unwind (column : Int) : Scan Unit := modify fun s =>
  if s.flow ≠ 0 then s
  else
    let (n, indent, indents) := unwound column s.indent s.indents
    { s with indent, indents, tokens := s.tokens ++ Array.replicate n .blockEnd }

/-- Indents to a column, if it is deeper. -/
def indentTo (column : Int) : Scan Bool := do
  let s ← get
  if s.indent < column then
    set { s with indents := s.indent :: s.indents, indent := column }
    return true
  else return false

end Scan

end SnippetRunner.Document.Yaml
