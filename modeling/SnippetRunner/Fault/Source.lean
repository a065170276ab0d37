import SnippetRunner.Data
import SnippetRunner.Text.Blank
import SnippetRunner.Text.Quoted

/-!
# Errors of encodings and sources

What cannot be read or written in an encoding, where it begins and ends, and why. All parts must
be given, and of their kinds.

What is wrong with a source, and where: the file, the line and the text of it, and the characters
between which it goes wrong. The parts are values of any kind; those that cannot be shown are
found when the error is reported.
-/

namespace SnippetRunner.Fault

/-- What an encoding fails at. -/
inductive Coded where
  /-- Bytes that are no text in an encoding. -/
  | read (encoding : String) (bytes : List UInt8)
  /-- A text that has no bytes in an encoding. -/
  | written (encoding : String) (text : String)
  /-- A text that cannot be put in other characters. -/
  | translated (text : String)

/-- A failure of an encoding. -/
structure CodingFault where
  coded : Coded
  start : Int
  stop : Int
  reason : String

/-- What is told of too few or too many arguments. -/
def countMessage (owner : String) (least most given : Nat) : String :=
  let bound := if given < least then least else most
  let kind := if least = most then "exactly" else if given < least then "at least" else "at most"
  let plural := if bound = 1 then "" else "s"
  s!"{owner} takes {kind} {bound} argument{plural} ({given} given)"

/-- What is told of an argument of the wrong kind. -/
def wrongArgument (owner : String) (place : Nat) (v : Data) : Problem :=
  let found := match v with
    | .null => "None"
    | v => v.typeName
  ⟨"TypeError", s!"{owner}argument {place} must be str, not {found}"⟩

/-- A text argument. -/
def textArgument (place : Nat) : Data → Except Problem String
  | .text s => .ok s
  | v => .error (wrongArgument "" place v)

/-- A place among characters or bytes. -/
def placeArgument (v : Data) : Except Problem Int :=
  match v with
  | .bool b => .ok (if b then 1 else 0)
  | .int n =>
    if -(Number.twoTo 63 : Int) ≤ n ∧ n < (Number.twoTo 63 : Int) then .ok n
    else .error ⟨"OverflowError", "Python int too large to convert to C ssize_t"⟩
  | v => .error ⟨"TypeError", s!"'{v.typeName}' object cannot be interpreted as an integer"⟩

namespace CodingFault

/-- The failure that the arguments of an error give, if it is one of an encoding. -/
def ofArguments (kind : String) (args : List Data) : Except Problem (Option CodingFault) := do
  match kind, args with
  | "UnicodeDecodeError", [encoding, bytes, start, stop, reason] =>
    let encoding ← textArgument 1 encoding
    let start ← placeArgument start
    let stop ← placeArgument stop
    let reason ← textArgument 5 reason
    match bytes with
    | .bytes bs => return some { coded := .read encoding bs, start, stop, reason }
    | v => throw ⟨"TypeError", s!"a bytes-like object is required, not '{v.typeName}'"⟩
  | "UnicodeEncodeError", [encoding, text, start, stop, reason] =>
    let coded := Coded.written (← textArgument 1 encoding) (← textArgument 2 text)
    return some { coded, start := ← placeArgument start, stop := ← placeArgument stop
                  reason := ← textArgument 5 reason }
  | "UnicodeTranslateError", [text, start, stop, reason] =>
    let coded := Coded.translated (← textArgument 1 text)
    return some { coded, start := ← placeArgument start, stop := ← placeArgument stop
                  reason := ← textArgument 4 reason }
  | "UnicodeDecodeError", _ | "UnicodeEncodeError", _ =>
    throw ⟨"TypeError", countMessage "function" 5 5 args.length⟩
  | "UnicodeTranslateError", _ => throw ⟨"TypeError", countMessage "function" 4 4 args.length⟩
  | _, _ => return none

/-- The one item that a failure is about, if it is just one. -/
def single? {α : Type} (f : CodingFault) (items : List α) : Option α :=
  if 0 ≤ f.start ∧ f.stop = f.start + 1 then items[f.start.toNat]? else none

/-- Where a failure is, and what is there. -/
def subject (f : CodingFault) (one many : String) (item? : Option String) : String :=
  match item? with
  | some item => s!"{one} {item} in position {f.start}"
  | none => s!"{many} in position {f.start}-{f.stop - 1}"

/-- The text of a failure. -/
def text (f : CodingFault) : String :=
  let character (s : String) : String :=
    f.subject "character" "characters" <|
      (f.single? s.toList).map fun c => "'" ++ Text.numberEscape c ++ "'"
  let failure := match f.coded with
    | .read encoding bytes =>
      s!"'{encoding}' codec can't decode " ++ f.subject "byte" "bytes"
        ((f.single? bytes).map fun (b : UInt8) => "0x" ++ Text.hexPadded 2 b.toNat)
    | .written encoding s => s!"'{encoding}' codec can't encode " ++ character s
    | .translated s => "can't translate " ++ character s
  s!"{failure}: {f.reason}"

end CodingFault

/-- Where a refused source text goes wrong, as far as is known. -/
structure SourceDetail where
  message : Data := .null
  file : Data := .null
  line : Data := .null
  offset : Data := .null
  text : Data := .null
  endLine : Data := .null
  endOffset : Data := .null

/-- The last component of a path. -/
def lastComponent (path : String) : String :=
  String.ofList ((path.toList.reverse.takeWhile (· != '/')).reverse)

namespace SourceDetail

/-- The place that is told beside a message; it has four parts, or all six. -/
def ofPlace (message : Data) (place : List Data) : Except Problem SourceDetail :=
  match place with
  | [file, line, offset, text] => .ok { message, file, line, offset, text }
  | [file, line, offset, text, endLine, endOffset] =>
    .ok { message, file, line, offset, text, endLine, endOffset }
  | [_, _, _, _, _] =>
    .error ⟨"TypeError", "end_offset must be provided when end_lineno is provided"⟩
  | _ => .error ⟨"TypeError", countMessage "function" 4 6 place.length⟩

/-- What the arguments of an error say of a source. -/
def ofArguments (args : List Data) : Except Problem SourceDetail :=
  match args with
  | [] => .ok {}
  | [message, place] => do ofPlace message (← place.items)
  | message :: _ => .ok { message }

/-- The number of a line as it is told after a message; one that is too great is told as -1. -/
def lineNumber (n : Int) : Int :=
  if -(Number.twoTo 63 : Int) ≤ n ∧ n < (Number.twoTo 63 : Int) then n else -1

/-- The text of a refusal: the message, with the file and the line if they are known. -/
def describe (d : SourceDetail) : String :=
  let file? := match d.file with
    | .text f => some (lastComponent f)
    | _ => none
  let line? := match d.line with
    | .int n => some (lineNumber n)
    | _ => none
  match file?, line? with
  | some f, some n => s!"{d.message.shown} ({f}, line {n})"
  | some f, none => s!"{d.message.shown} ({f})"
  | none, some n => s!"{d.message.shown} (line {n})"
  | none, none => d.message.shown

/-- What is told where a number is to be added to a value that is none. -/
def noSum (v : Data) : Problem :=
  ⟨"TypeError", match v with
    | .text _ | .list _ | .tuple _ =>
      s!"can only concatenate {v.typeName} (not \"int\") to {v.typeName}"
    | .bytes _ => "can't concat int to bytes"
    | v => s!"unsupported operand type(s) for +: '{v.typeName}' and 'int'"⟩

/-- What is told where a number is to be taken from a value that is none. -/
def noDifference (v : Data) : Problem :=
  ⟨"TypeError", s!"unsupported operand type(s) for -: '{v.typeName}' and 'int'"⟩

/-- Whether a number is a float. -/
def isFloat : Data → Bool
  | .float _ => true
  | _ => false

/-- Whether carets at a number of characters begin within the text after its margin. -/
def startsWithin (offset : Data) (margin : Nat) : Bool :=
  (offset.compared ">=" (· != .lt) (.int (margin + 1))).toOption == some true

/-- Why no carets can be drawn under the text without its `margin`, if so. -/
def caretProblem? (d : SourceDetail) (margin : Nat) : Option Problem :=
  match d.offset, d.endOffset with
  | .null, _ => none
  | _, v@(.list _) | _, v@(.mapping _) | _, v@(.set _) =>
    some ⟨"TypeError", s!"unhashable type: '{v.typeName}'"⟩
  | offset, given =>
    let stop := match given with
      | .null => offset
      | v => if v.same (.int 0) then offset else v
    let follows := stop.same offset || stop.same (.int (-1))
    if offset.numeric?.isNone then some (if follows then noSum offset else noDifference offset)
    else if ! follows && stop.numeric?.isNone then some (noDifference stop)
    else if ! startsWithin offset margin then none
    else if isFloat offset then
      some ⟨"TypeError", "slice indices must be integers or None or have an __index__ method"⟩
    else if ! follows && isFloat stop then
      some ⟨"TypeError", "can't multiply sequence by non-int of type 'float'"⟩
    else none

/-- Characters before a text that are not shown. -/
def isMargin (c : Char) : Bool := c == ' ' || c == '\n' || c == '\x0c'

/-- Why the place of a refusal cannot be shown, if so. -/
def problem? (d : SourceDetail) : Option Problem :=
  match d.text with
  | .null => none
  | .text s =>
    d.caretProblem? ((Text.dropTrailing (· == '\n') s.toList).takeWhile isMargin).length
  | .bytes _ => some ⟨"TypeError", "a bytes-like object is required, not 'str'"⟩
  | v => some ⟨"AttributeError", s!"'{v.typeName}' object has no attribute 'rstrip'"⟩

end SourceDetail

end SnippetRunner.Fault
