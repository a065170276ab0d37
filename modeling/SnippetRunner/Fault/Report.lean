import SnippetRunner.Fault.Raised
import SnippetRunner.Snippet.Program
import SnippetRunner.Text.Blank

/-!
# Fault reports

The display lines of the sources that reports may show are kept by file name. A run registers its
source before it is evaluated and takes it out again when it ends.

A report is the text in which an error is shown: the errors it follows from or happened during, each
with the frames it went through, its own line, and its notes. Only the outermost error's frames are
cut to the part that lies in the snippet.

A frame of a report shows its source line without the blanks at its ends, and below it carets
under the stretch that failed. Under a binary operation or a subscript the operands get tildes and
the operator carets. A stretch that covers the whole line and has no operator gets none.
-/

namespace SnippetRunner.Fault

/-! ## Excerpts of sources -/

/-- Display lines by file name. -/
abbrev SourceLines := List (String × List String)

namespace SourceLines

/-- Registers a source. -/
def register (cache : SourceLines) (file source : String) : SourceLines :=
  (file, Text.displayLines source) :: cache.filter (·.1 != file)

/-- Takes a source out. -/
def remove (cache : SourceLines) (file : String) : SourceLines := cache.filter (·.1 != file)

/-- The lines of a file. -/
def lines (cache : SourceLines) (file : String) : List String :=
  ((cache.find? (·.1 == file)).map (·.2)).getD []

/-- A line of a file by its number from one on, with its ending; empty if there is none. -/
def line (cache : SourceLines) (file : String) (n : Nat) : String :=
  if n = 0 then "" else (cache.lines file).getD (n - 1) ""

end SourceLines

open SnippetRunner.Snippet

/-- The part of a stretch that stands out: from one character to another, counted from the
stretch's start. -/
structure Anchors where
  left : Nat
  right : Nat
  deriving Repr, DecidableEq

/-- The number of characters in the first `n` bytes of a text, at most all of them. -/
def charsBefore (n : Nat) (cs : List Char) : Nat := min (charsInBytes n cs) cs.length

/-- The operator of a binary operation, or the brackets of a subscript, in a text that is one
expression. -/
def anchors? (segment : String) : Option Anchors := do
  let cs := segment.toList
  match ← readExpression? segment with
  | .mk _ (.binary _ left right) =>
    let start := charsBefore left.span.endColumn cs
    let stop := charsBefore right.span.column cs
    let between := (cs.take stop).drop start
    let blanks := (between.takeWhile Text.isBlank).length
    let leftBytes := left.span.endColumn + blanks
    let two := match between[blanks + 1]? with
      | some c => ! Text.isBlank c
      | none => false
    some ⟨charsBefore leftBytes cs, charsBefore (leftBytes + if two then 2 else 1) cs⟩
  | .mk _ (.subscript value index) =>
    some ⟨charsBefore value.span.endColumn cs, charsBefore (index.span.endColumn + 1) cs⟩
  | _ => none

/-- A character repeated; a negative number of times is none. -/
def repeated (c : Char) (n : Int) : String := String.ofList (List.replicate n.toNat c)

/-- The line of carets under a source line with its ending, for a stretch of it. -/
def caretLine? (line : String) (span : Span) : Option String :=
  let cs := line.toList
  let stripped := (Text.strip line).length
  let dropped : Int := (cs.length : Int) - stripped
  let start : Int := charsBefore span.column cs + 1
  let stop : Int :=
    if span.line = span.endLine then charsBefore span.endColumn cs + 1 else dropped + stripped
  let anchors :=
    if span.line = span.endLine then
      anchors? (String.ofList ((cs.take (stop - 1).toNat).drop (start - 1).toNat))
    else none
  let outstanding : Bool := match anchors with
    | some a => decide (a.left < a.right)
    | none => false
  if stop - start < stripped || outstanding then
    let indent := "    " ++ repeated ' ' (start - dropped)
    match anchors with
    | some a =>
      some (indent ++ repeated '~' a.left ++ repeated '^' ((a.right : Int) - a.left)
        ++ repeated '~' (stop - start - a.right))
    | none => some (indent ++ repeated '^' (stop - start))
  else none

/-! ## Errors and their frames -/

/-- A place an error went through. -/
structure Frame where
  file : String
  name : String
  span : Span
  deriving Repr, DecidableEq, Inhabited

/-- Where a refused source goes wrong, as a report shows it. -/
structure RefusedPlace where
  message : Option String
  file : Option String
  line : Option String
  text : Option String
  offset : Option Int
  endOffset : Option Int
  deriving Repr, DecidableEq

/-- What an error says of itself. -/
inductive Headline where
  /-- A kind and a text; no text if it cannot be had. -/
  | plain (kind : String) (text : Option String)
  /-- A source that was refused. -/
  | refused (kind : String) (place : RefusedPlace)
  deriving Repr, DecidableEq

/-- What was added to an error: lines, or a text after which no line ends. -/
structure Notes where
  lines : List String := []
  rest : Option String := none
  deriving Repr, DecidableEq

/-- An error as it is reported, with those it is chained to. -/
structure Report where
  headline : Headline
  notes : Notes := {}
  frames : List Frame := []
  /-- The errors in a group of errors. -/
  members : List Report := []
  cause : Option Report := none
  context : Option Report := none
  suppress : Bool := false

/-! ## One error -/

/-- The carets of a refused place under its text without margin. -/
def refusedCarets? (text : List Char) (margin : Nat) (offset : Int) (endOffset : Option Int) :
    Option String :=
  let given := match endOffset with
    | none => offset
    | some n => if n = 0 then offset else n
  let stop := if offset = given ∨ given = -1 then offset + 1 else given
  let column := offset - 1 - margin
  let width := stop - 1 - margin - column
  if 0 ≤ column then
    let lead := (text.take column.toNat).map fun c => if Text.isBlank c then c else ' '
    -- the carets stand below the text, and past its end no blanks are added
    some ("    " ++ String.ofList lead ++ repeated '^' width)
  else none

/-- The lines of a refused source before its message. -/
def RefusedPlace.lines (p : RefusedPlace) : List String :=
  let head := match p.line with
    | some n =>
      let file := match p.file with
        | some f => if f.isEmpty then "<string>" else f
        | none => "<string>"
      ["  File \"" ++ file ++ "\", line " ++ n]
    | none => []
  let body := match p.text with
    | none => []
    | some text =>
      let right := dropBreaks text.toList
      let left := right.dropWhile SourceDetail.isMargin
      let margin := right.length - left.length
      let carets := match p.offset with
        | none => []
        | some offset => (refusedCarets? left margin offset p.endOffset).toList
      ("    " ++ String.ofList left) :: carets
  head ++ body
where
  /-- A text without the newlines at its end. -/
  dropBreaks (cs : List Char) : List Char := Text.dropTrailing (· == '\n') cs

/-- The lines with which an error is named. -/
def Headline.lines : Headline → List String
  | .plain kind none => [kind ++ ": <exception str() failed>"]
  | .plain kind (some text) => [if text.isEmpty then kind else kind ++ ": " ++ text]
  | .refused kind place =>
    let message := match place.message with
      | some m => if m.isEmpty then "<no detail available>" else m
      | none => "<no detail available>"
    let suffix := match place.line, place.file with
      | none, some file => s!" ({file})"
      | _, _ => ""
    place.lines ++ [kind ++ ": " ++ message ++ suffix]

/-- A frame with its source line and carets. -/
def Frame.lines (sources : SourceLines) (f : Frame) : List String :=
  let head := "  File \"" ++ f.file ++ "\", line " ++ toString f.span.line ++ ", in " ++ f.name
  let line := sources.line f.file f.span.line
  let shown := Text.strip line
  if shown.isEmpty then [head]
  else head :: ("    " ++ shown) :: (caretLine? line f.span).toList

/-- Whether two frames count as repeated. -/
def Frame.repeats (f g : Frame) : Bool :=
  f.file == g.file && f.span.line == g.span.line && f.name == g.name

/-- How many equal frames in a row are shown. -/
def repeatLimit : Nat := 3

/-- The line that stands for frames left out. -/
def repetitionLines (count : Nat) : List String :=
  if repeatLimit < count then
    let more := count - repeatLimit
    let plural := if 1 < more then "s" else ""
    [s!"  [Previous line repeated {more} more time{plural}]"]
  else []

/-- Frames in order, at most three equal ones in a row; `last` is the frame before and `count`
how many of it there were. -/
def frameLines (sources : SourceLines) (last : Option Frame) (count : Nat) :
    List Frame → List String
  | [] => repetitionLines count
  | f :: rest =>
    if last.any (·.repeats f) then
      if count < repeatLimit then
        f.lines sources ++ frameLines sources (some f) (count + 1) rest
      else frameLines sources (some f) (count + 1) rest
    else repetitionLines count ++ f.lines sources ++ frameLines sources (some f) 1 rest

/-! ## Chains -/

/-- Between an error and the one it caused. -/
def causeWords : String :=
  "\nThe above exception was the direct cause of the following exception:\n\n"

/-- Between an error and one that happened during its handling. -/
def contextWords : String :=
  "\nDuring handling of the above exception, another exception occurred:\n\n"

/-! ## Groups -/

/-- How many errors of a group are shown. -/
def widthLimit : Nat := 15

/-- How deep groups are shown inside each other. -/
def depthLimit : Nat := 10

/-- The blanks before what stands inside so many groups. -/
def margin (depth : Nat) : String := String.ofList (List.replicate (2 * depth) ' ')

/-- A stretch of text as part of a report: inside groups each line has a mark. -/
def marked (depth : Nat) (mark : Char) (text : String) : String :=
  if depth = 0 then text
  else
    String.join ((Text.displayLines text).map fun line =>
      margin depth ++ mark.toString ++ " " ++ line)

/-- The line above an error of a group. -/
def memberLine (depth index : Nat) (title : String) : String :=
  let join := if index = 0 then "+-" else "  "
  s!"{margin depth}{join}+---------------- {title} ----------------\n"

/-- The errors of a group one below the other, from the text of each; `closed` tells whether the
last one ends with a closing line of its own. -/
def groupText (depth : Nat) (closed : Bool) (members : List String) : String :=
  let shown := (members.take widthLimit).zipIdx.map fun (text, i) =>
    memberLine depth i (toString (i + 1)) ++ text
  let more := members.length - widthLimit
  let plural := if 1 < more then "s" else ""
  let rest :=
    if more = 0 then ""
    else memberLine depth widthLimit "..."
      ++ marked (depth + 1) '|' s!"and {more} more exception{plural}\n"
  let last :=
    if closed && more = 0 then ""
    else margin (depth + 1) ++ "+------------------------------------\n"
  String.join shown ++ rest ++ last

/-- What an error says of itself, inside so many groups, after the frames it went through. `members`
are the texts of the errors in a group. -/
def ownText (sources : SourceLines) (depth : Nat) (headline : Headline) (notes : Notes)
    (frames : List Frame) (members : List String) (closed : Bool) : String :=
  let inner := if members.isEmpty then depth else max depth 1
  let title (text : String) (mark : Char) : String :=
    if frames.isEmpty then "" else marked inner mark (text ++ "\n")
  let trace := frameLines sources none 0 frames
  let own := String.join ((trace ++ headline.lines ++ notes.lines).map fun line =>
    marked inner '|' (line ++ "\n")) ++ marked inner '|' (notes.rest.getD "")
  if members.isEmpty then title "Traceback (most recent call last):" '|' ++ own
  else if depthLimit < depth then marked depth '|' s!"... (max_group_depth is {depthLimit})\n"
  else
    title "Exception Group Traceback (most recent call last):" (if depth = 0 then '+' else '|')
      ++ own ++ groupText inner closed members

/-- How deep the errors of a group stand that stands inside so many groups. -/
def innerDepth (depth : Nat) : Nat := max depth 1 + 1

/-- Whether a report shows a group, itself or before it. -/
def Report.showsGroup : Report → Bool
  | ⟨_, _, _, members, some cause, _, _⟩ => ! members.isEmpty || cause.showsGroup
  | ⟨_, _, _, members, none, some context, false⟩ => ! members.isEmpty || context.showsGroup
  | ⟨_, _, _, members, none, _, _⟩ => ! members.isEmpty

/-- Whether the last error of a group ends with a closing line of its own at some depth. -/
def closes (depth : Nat) (members : List Report) : Bool :=
  depth ≤ depthLimit && (members.getLast?).any Report.showsGroup

mutual

/-- An error after the errors it is chained to, inside so many groups. -/
def Report.textAt (sources : SourceLines) : Report → Nat → String
  | ⟨headline, notes, frames, members, some cause, _, _⟩, depth =>
    cause.textAt sources depth ++ marked depth '|' causeWords
      ++ ownText sources depth headline notes frames
        (memberTexts sources members (innerDepth depth)) (closes (innerDepth depth) members)
  | ⟨headline, notes, frames, members, none, some context, false⟩, depth =>
    context.textAt sources depth ++ marked depth '|' contextWords
      ++ ownText sources depth headline notes frames
        (memberTexts sources members (innerDepth depth)) (closes (innerDepth depth) members)
  | ⟨headline, notes, frames, members, none, _, _⟩, depth =>
    ownText sources depth headline notes frames
      (memberTexts sources members (innerDepth depth)) (closes (innerDepth depth) members)

/-- The text of each error of a group. -/
def memberTexts (sources : SourceLines) : List Report → Nat → List String
  | [], _ => []
  | r :: rest, depth => r.textAt sources depth :: memberTexts sources rest depth

end

/-- The frames from the first to the last one in a file. -/
def framesWithin (file : String) (frames : List Frame) : List Frame :=
  let outside (f : Frame) : Bool := f.file != file
  ((frames.dropWhile outside).reverse.dropWhile outside).reverse

/-- A report whose outermost error keeps only the frames within a file. -/
def Report.within (r : Report) (file : String) : Report :=
  { r with frames := framesWithin file r.frames }

/-- The text of a report, without blanks at its end. -/
def Report.text (sources : SourceLines) (r : Report) : String :=
  Text.stripRight (r.textAt sources 0)

/-! ## Reports of errors that are plain data -/

/-- A text argument. -/
def textOf? : Data → Option String
  | .null => none
  | v => some v.shown

/-- A number argument. -/
def intOf? : Data → Option Int
  | .int n => some n
  | .bool b => some (if b then 1 else 0)
  | _ => none

/-- The place of a refusal; a message that counts as false is none, and neither is the name of a
file before a line. -/
def SourceDetail.place (d : SourceDetail) : RefusedPlace :=
  let line := textOf? d.line
  { message := if d.message.isTrue then some d.message.shown else none
    file := if line.isSome && ! d.file.isTrue then none else textOf? d.file
    line, text := textOf? d.text, offset := intOf? d.offset, endOffset := intOf? d.endOffset }

/-- What an error says of itself. -/
def Raised.headline (r : Raised) : Headline :=
  if isKindOf r.kind "SyntaxError" then
    .refused (displayName r.kind) ((SourceDetail.ofArguments r.args).toOption.getD {}).place
  else .plain (displayName r.kind) (some r.text)

/-- Why an error, or one that is shown before it, cannot be reported, if so. -/
def Raised.reportProblem? : Raised → Option Problem
  | ⟨kind, args, cause, context, suppress, _⟩ =>
    let before := match cause, context with
      | some c, _ => c.reportProblem?
      | none, some c => if suppress then none else c.reportProblem?
      | none, none => none
    let own := if isKindOf kind "SyntaxError" then
        (SourceDetail.ofArguments args).toOption.bind (·.problem?)
      else none
    before.or own

/-- The report of an error that went through no frames. -/
def Raised.report : Raised → Report
  | ⟨kind, args, cause, context, suppress, notes⟩ =>
    let r : Raised := { kind, args }
    { headline := r.headline, notes := { lines := notes }, suppress
      cause := match cause with
        | some c => some c.report
        | none => none
      context := match context with
        | some c => some c.report
        | none => none }

/-- The text in which an error that went through no frames is reported. -/
def Raised.print (r : Raised) : Except Problem String :=
  match r.reportProblem? with
  | some problem => .error problem
  | none => .ok (r.report.text [])

/-- A frame outside any snippet. -/
def Frame.outside (name : String) : Frame := ⟨"/host", name, ⟨1, 0, 1, 0⟩⟩

/-- The report of an error that arose outside any snippet. -/
def reportOfProblem (p : Problem) : Report :=
  { headline := .plain (displayName p.kind) (some p.message), frames := [.outside "host"] }

/-- The report of a refused source. -/
def reportOfRefusal (file : String) (r : Refusal) : Report :=
  { headline := .refused r.kind.name
      { message := some r.message, file := some file, line := some (toString r.line)
        text := r.text, offset := some r.offset, endOffset := some r.endOffset } }

/-- The text of a refusal: the message, with the file and the line if they are known. -/
def RefusedPlace.describe (p : RefusedPlace) : String :=
  let message := p.message.getD "None"
  match p.file.map lastComponent, p.line with
  | some file, some line => s!"{message} ({file}, line {line})"
  | some file, none => s!"{message} ({file})"
  | none, some line => s!"{message} (line {line})"
  | none, none => message

/-- The class and the text of the outermost error of a report. -/
def Report.problem (r : Report) : Problem :=
  match r.headline with
  | .plain kind text => ⟨kind, text.getD ""⟩
  | .refused kind place => ⟨kind, place.describe⟩

end SnippetRunner.Fault
