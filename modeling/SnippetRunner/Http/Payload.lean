import SnippetRunner.Document.Json
import SnippetRunner.Http.Message
import SnippetRunner.Text.Encoding

/-!
# Payloads

What the body of a request asks for. Fields that are left out have their usual values, and fields
that are not known do not matter; every field that is not as it should be is complained about.
-/

namespace SnippetRunner.Http

/-- What came with a request. -/
inductive Received where
  | nothing
  | document (v : Data)
  /-- Something that is not said to be a document. -/
  | other (bytes : List UInt8)

/-- Why no document came. -/
inductive BodyFault where
  | badJson (position : Nat)
  /-- It cannot even be looked at. -/
  | unreadable
  deriving Repr, DecidableEq

/-- The response to a request without a document. -/
def BodyFault.response : BodyFault → Except Problem Response
  | .badJson position => complain [⟨.jsonInvalid, .character position, .null⟩]
  | .unreadable => .ok (refuse 400 "There was an error parsing the body")

/-- A text in bytes, without a mark at its beginning. -/
def bodyText (bytes : List UInt8) : Except BodyFault String :=
  let (encoding, bytes) := Text.Encoding.detect bytes
  match encoding.decode? bytes with
  | some text => .ok text
  | none => .error .unreadable

/-- How deeply the values of a body may be nested. -/
def bodyDepth : Nat := 960

/-- Reads the body of a request. -/
def Request.received (r : Request) : Except BodyFault Received := do
  if r.body.isEmpty then return .nothing
  else if ! r.saysJson then return .other r.body
  else
    let source ← bodyText r.body
    let v ← (Document.Json.read bodyDepth source).mapError fun
      | .fault f => .badJson f.position
      | .longInteger _ | .tooDeep _ => .unreadable
    return .document v

/-! ## Fields -/

/-- A field as it was read, or what is wrong with it. -/
abbrev Field (α : Type) := Except Complaint α

/-- The value of a field, or its usual value. -/
def field (entries : List (Data × Data)) (name : String) (usual : Data) : Data :=
  (Data.lookup? entries (.text name)).getD usual

/-- Reads a text. -/
def textField (entries : List (Data × Data)) (name usual : String) : Field String :=
  match field entries name (.text usual) with
  | .text s => .ok s
  | found => .error ⟨.stringType, .field name, found⟩

/-- Blanks around a number: all but the separator controls. -/
def isNumberBlank (c : Char) : Bool := Text.isBlank c && ! ('\x1c' ≤ c && c ≤ '\x1f')

/-- A number's text without underscores, which stand between other characters and alone. -/
def withoutGaps? (s : String) : Option (List Char) :=
  if s.startsWith "_" || s.endsWith "_" || (s.splitOn "__").length ≠ 1 then none
  else some (s.toList.filter (· != '_'))

/-- Reads a float in a text; only one without underscores may have blanks around it. -/
def readNumber? (s : String) : Option Float :=
  (Number.readBareFloat? (Text.stripWhere isNumberBlank s).toList).orElse fun _ =>
    (withoutGaps? s).bind Number.readBareFloat?

/-- A value as a float. -/
def floatOf : Data → Except Code Float
  | .bool b => .ok (if b then 1.0 else 0.0)
  | .float x => .ok x
  | .int n =>
    match Number.ofInt? n with
    | some x => .ok x
    | none => .error .floatType
  | .text s =>
    match readNumber? s with
    | some x => .ok x
    | none => .error .floatParsing
  | _ => .error .floatType

/-- Reads a number above zero, or nothing. -/
def positiveField (entries : List (Data × Data)) (name : String) : Field Data :=
  match field entries name .null with
  | .null => .ok .null
  | v =>
    match floatOf v with
    | .error code => .error ⟨code, .field name, v⟩
    | .ok x => if 0 < x then .ok (.float x) else .error ⟨.greaterThan, .field name, v⟩

/-- The complaint about a field, if there is one. -/
def Field.complaint? {α : Type} : Field α → List Complaint
  | .ok _ => []
  | .error c => [c]

/-! ## Requests for a run -/

/-- What a request for a run asks for. -/
structure RunPayload where
  dialect : String := "python"
  code : String := ""
  deadline : Data := .null

/-- The entries of a document that has to be a mapping. -/
def entriesOf : Received → Except (List Complaint) (List (Data × Data))
  | .nothing => .error [⟨.missing, .all, .null⟩]
  | .document (.mapping entries) => .ok entries
  | .document v => .error [⟨.modelAttributesType, .all, v⟩]
  | .other bytes => .error [⟨.modelAttributesType, .all, .bytes bytes⟩]

/-- Reads a request for a run whose dialect is under a name, and which may say how long it lasts. -/
def readRun (tag : String) (timed : Bool) (entries : List (Data × Data)) :
    Except (List Complaint) RunPayload :=
  let dialect := textField entries tag "python"
  let code := textField entries "code" ""
  let deadline := if timed then positiveField entries "deadline_seconds" else .ok .null
  match dialect, code, deadline with
  | .ok dialect, .ok code, .ok deadline => .ok { dialect, code, deadline }
  | _, _, _ => .error (dialect.complaint? ++ code.complaint? ++ deadline.complaint?)

/-- Reads a request for a run. -/
def RunPayload.ofReceived (r : Received) : Except (List Complaint) RunPayload := do
  readRun "dialect" true (← entriesOf r)

/-- Reads a request for a run in the short form, which may also be left out. -/
def RunPayload.ofShort (r : Received) : Except (List Complaint) RunPayload := do
  match r with
  | .nothing | .document .null => return {}
  | _ => readRun "lang" false (← entriesOf r)

end SnippetRunner.Http
