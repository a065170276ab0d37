import SnippetRunner.Terminal.Cell
import SnippetRunner.Terminal.Markup
import SnippetRunner.Text.Blank

/-!
# Panels and tables

Fits text into lines of a given width. A line is broken before a word that does not fit; a word
that fits no line is cut. Blanks after a word stay with it, as far as the line has room for them.

A panel is a text in a frame with rounded corners and a title in its upper edge. The frame is as
wide as the text and the title need, and at most as wide as the terminal. A table is rows of cells
in a frame, with a head in heavy lines and a title above. Every column is as wide as its widest
cell.
-/

namespace SnippetRunner.Terminal

open SnippetRunner.Text

/-! ## Wrapped text -/

/-- Controls that are never shown. -/
def isHiddenControl (c : Char) : Bool :=
  c == '\x07' || c == '\x08' || c == '\x0b' || c == '\x0c' || c == '\r'

/-- Characters without the controls that are never shown. -/
def visible (cs : List Char) : List Char := cs.filter fun c => ! isHiddenControl c

/-- The distance from one tab stop to the next. -/
def tabStop : Nat := 8

/-- Parts that tabs stood between, with spaces up to the next stop for each tab; `column` cells
stand before. -/
def joinAtStops (column : Nat) : List (List Char) → List Char
  | [] => []
  | [part] => part
  | part :: rest =>
    let part := part ++ [' ']
    let column := column + cells part
    let spaces := (tabStop - column % tabStop) % tabStop
    part ++ List.replicate spaces ' ' ++ joinAtStops (column + spaces) rest

/-- Tabs as spaces up to the next stop. -/
def expandTabs (cs : List Char) : List Char := joinAtStops 0 (pieces (· == '\t') cs)

/-- Characters with the blanks before the first word, the word, and the blanks after it, and what
is left; none if there is no word. -/
def nextWord? (cs : List Char) : Option (List Char × List Char) :=
  let before := cs.takeWhile isBlank
  let rest := cs.dropWhile isBlank
  let word := rest.takeWhile fun c => ! isBlank c
  let rest := rest.dropWhile fun c => ! isBlank c
  if word.isEmpty then none
  else some (before ++ word ++ rest.takeWhile isBlank, rest.dropWhile isBlank)

/-- The words of a line, each with the blanks around it. -/
def words : Nat → List Char → List (List Char)
  | 0, _ => []
  | fuel + 1, cs =>
    match nextWord? cs with
    | none => []
    | some (word, rest) => word :: words fuel rest

/-- Clusters in pieces that fit into a width; `used` cells of the piece are taken. -/
def chopClusters (width : Nat) (used : Nat) (piece : List Char) : List Cluster → List (List Char)
  | [] => [piece]
  | k :: rest =>
    if width < used + k.cells then piece :: chopClusters width k.cells k.chars rest
    else chopClusters width (used + k.cells) (piece ++ k.chars) rest

/-- Characters in pieces that fit into a width. -/
def chop (width : Nat) (cs : List Char) : List (List Char) :=
  chopClusters width 0 [] (clusters cs)

/-- The places where a line is broken, given its words. `start` characters stand before the next
word, and `used` cells of the line are taken. -/
def breaks (width : Nat) (start used : Nat) : List (List Char) → List Nat
  | [] => []
  | word :: rest =>
    let size := cells (dropTrailing isBlank word)
    let next := start + word.length
    if used + size ≤ width then breaks width next (used + cells word) rest
    else if width < size then
      let pieces := chop width word
      let starts := pieces.dropLast.scanl (fun at_ piece => at_ + piece.length) start
      starts.filter (· != 0) ++ breaks width next (cells (pieces.getLastD [])) rest
    else if used ≠ 0 ∧ start ≠ 0 then start :: breaks width next (cells word) rest
    else breaks width next used rest

/-- Cuts characters at increasing places; `at_` characters were cut off before. -/
def cutAt (at_ : Nat) (cs : List Char) : List Nat → List (List Char)
  | [] => [cs]
  | place :: rest => cs.take (place - at_) :: cutAt place (cs.drop (place - at_)) rest

/-- A line without the blanks at its end that are beyond a width. -/
def trimEnd (width : Nat) (cs : List Char) : List Char :=
  let blanks := (cs.reverse.takeWhile isBlank).length
  cs.take (cs.length - min blanks (cs.length - width))

/-- The lines of one line of text at a width. -/
def wrapLine (width : Nat) (cs : List Char) : List (List Char) :=
  let cs := expandTabs cs
  (cutAt 0 cs (breaks width 0 0 (words cs.length cs))).map fun line =>
    crop width (trimEnd width line)

/-- The lines of a text at a width. -/
def wrap (width : Nat) (cs : List Char) : List (List Char) :=
  (pieces (· == '\n') (visible cs)).flatMap (wrapLine width)

/-- A text as it is printed at a width. -/
def printed (width : Nat) (cs : List Char) : String :=
  String.ofList ((wrap width cs).flatMap (· ++ ['\n']))

/-! ## Frames -/

/-- The cells of the widest line. -/
def widest (lines : List (List Char)) : Nat := lines.foldl (fun n line => max n (cells line)) 0

/-- The lines of a text, ended by breaks of any kind. -/
def textLines (cs : List Char) : List (List Char) :=
  (Text.displayLines (String.ofList cs)).map fun line => (Text.withoutBreak line).toList

/-- The title between spaces, on one line. -/
def titleText (title : List Char) : List Char :=
  let line := (visible title).map fun c => if c == '\n' then ' ' else c
  ' ' :: expandTabs line ++ [' ']

/-- A text in a frame, on a terminal of a width. -/
def panel (width : Nat) (title text : List Char) : String :=
  let title := titleText title
  let room := width - 2
  let wanted := min room (widest (textLines (visible text)) + 2)
  let inner := min room (max wanted (cells title + 2))
  let edge := center (inner - 2) '─' (crop (inner - 2) title)
  let top := ['╭', '─'] ++ edge ++ ['─', '╮']
  let rows := (wrap (inner - 2) text).map fun line =>
    ['│', ' '] ++ padRight (inner - 2) line ++ [' ', '│']
  let bottom := '╰' :: List.replicate inner '─' ++ ['╯']
  String.ofList ((top :: rows ++ [bottom]).flatMap (· ++ ['\n']))

/-- A table. -/
structure Table where
  title : List Char
  head : List (List Char)
  rows : List (List (List Char))

namespace Table

/-- The widths of the columns. -/
def widths (t : Table) : List Nat :=
  t.rows.foldl (fun widths row => List.zipWith (fun n cell => max n (cells cell)) widths row)
    (t.head.map cells)

/-- A line between rows: its ends, its joints and what it is drawn with. -/
def rule (widths : List Nat) (first joint last fill : Char) : List Char :=
  first :: ([joint].intercalate (widths.map fun n => List.replicate (n + 2) fill)) ++ [last]

/-- A row between vertical lines. -/
def row (widths : List Nat) (side : Char) (cells : List (List Char)) : List Char :=
  let padded := List.zipWith (fun n cell => ' ' :: padRight n cell ++ [' ']) widths cells
  side :: [side].intercalate padded ++ [side]

/-- A table as it is printed. -/
def printed (t : Table) : String :=
  let widths := t.widths
  let top := rule widths '┏' '┳' '┓' '━'
  let lines := [center top.length ' ' t.title, top, row widths '┃' t.head,
      rule widths '┡' '╇' '┩' '━']
    ++ t.rows.map (row widths '│') ++ [rule widths '└' '┴' '┘' '─']
  String.ofList (lines.flatMap (· ++ ['\n']))

end Table

end SnippetRunner.Terminal
