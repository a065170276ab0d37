import SnippetRunner.Text.CodeRanges

/-!
# Blanks and lines

White space of all scripts, and texts without the blanks at their ends. A line ends at every
character that a terminal may take as a break: the ASCII breaks, vertical tab, form feed, the
separator controls, the next-line control and the line and paragraph separators. Lines are kept
with their endings.
-/

namespace SnippetRunner.Text

/-- White space of all scripts: the ASCII blanks, the four separator controls, the next-line
control, and the space, line and paragraph separators. -/
def blankRanges : CodeRanges :=
  ⟨#[(0x9, 0xd), (0x1c, 0x20), (0x85, 0x85), (0xa0, 0xa0), (0x1680, 0x1680), (0x2000, 0x200a),
    (0x2028, 0x2029), (0x202f, 0x202f), (0x205f, 0x205f), (0x3000, 0x3000)]⟩

/-- Whether a character is white space. -/
def isBlank (c : Char) : Bool := blankRanges.contains c

/-- The blanks among the ASCII characters that a byte string or a JSON text knows. -/
def isAsciiBlank (c : Char) : Bool :=
  c == ' ' || c == '\t' || c == '\n' || c == '\r' || c == '\x0b' || c == '\x0c'

/-- A list without its leading elements that satisfy `p`. -/
def dropLeading (p : Char → Bool) (cs : List Char) : List Char := cs.dropWhile p

/-- A list without its trailing elements that satisfy `p`. -/
def dropTrailing (p : Char → Bool) (cs : List Char) : List Char :=
  (cs.reverse.dropWhile p).reverse

/-- A text without the leading and trailing characters that satisfy `p`. -/
def stripWhere (p : Char → Bool) (s : String) : String :=
  String.ofList (dropTrailing p (dropLeading p s.toList))

/-- A text without the blanks at both ends. -/
def strip (s : String) : String := stripWhere isBlank s

/-- A text without the blanks at its end. -/
def stripRight (s : String) : String := String.ofList (dropTrailing isBlank s.toList)

/-- A character that ends a line. -/
def isDisplayBreak (c : Char) : Bool :=
  c == '\n' || c == '\r' || c == '\x0b' || c == '\x0c' || c == '\x1c' || c == '\x1d'
    || c == '\x1e' || c == '\u0085' || c == '\u2028' || c == '\u2029'

/-- The lines of a text, each with its ending; a carriage return takes a newline after it along.
`line` holds the characters of the current line, last first. -/
def linesFrom (line : List Char) : List Char → List (List Char)
  | [] => if line.isEmpty then [] else [line.reverse]
  | '\r' :: '\n' :: rest => ('\n' :: '\r' :: line).reverse :: linesFrom [] rest
  | c :: rest =>
    if isDisplayBreak c then (c :: line).reverse :: linesFrom [] rest
    else linesFrom (c :: line) rest

/-- The lines of a text, each with its ending. -/
def displayLines (s : String) : List String :=
  (linesFrom [] s.toList).map String.ofList

/-- A line without its ending. -/
def withoutBreak (line : String) : String :=
  String.ofList ((line.toList.reverse.dropWhile isDisplayBreak).reverse)

end SnippetRunner.Text
