import SnippetRunner.Data
import SnippetRunner.Text.Blank
import SnippetRunner.Text.LetterCase
import SnippetRunner.Text.Utf8

/-!
# Messages

A request with its method, path, headers and body, and the response to it.
-/

namespace SnippetRunner.Http

/-- A request. -/
structure Request where
  method : String
  path : String
  headers : List (String × String) := []
  body : List UInt8 := []
  deriving Repr

namespace Request

/-- The value of a header; names are the same in any case. -/
def header? (r : Request) (name : String) : Option String :=
  (r.headers.find? fun (key, _) => Text.lower key == name).map (·.2)

/-- The problem of a header with characters that do not fit into a byte. -/
def headerProblem? (r : Request) : Option Problem :=
  r.headers.findSome? fun (_, value) =>
    (Text.unwritable? "latin-1" "ordinal not in range(256)" (fun c => c.toNat < 256) value).map
      (⟨"UnicodeEncodeError", ·⟩)

/-- Whether the body is said to be a JSON document. -/
def saysJson (r : Request) : Bool :=
  let value := (r.header? "content-type").getD ""
  let kind := Text.lower (Text.strip (String.ofList (value.toList.takeWhile (· != ';'))))
  match kind.splitOn "/" with
  | ["application", subkind] => subkind == "json" || subkind.endsWith "+json"
  | _ => false

end Request

/-- What a part of a request is blamed for. -/
inductive Code where
  | missing
  | jsonInvalid
  | modelAttributesType
  | stringType
  | floatType
  | floatParsing
  | greaterThan
  deriving Repr, DecidableEq

/-- The name of a code. -/
def Code.name : Code → String
  | .missing => "missing"
  | .jsonInvalid => "json_invalid"
  | .modelAttributesType => "model_attributes_type"
  | .stringType => "string_type"
  | .floatType => "float_type"
  | .floatParsing => "float_parsing"
  | .greaterThan => "greater_than"

/-- A part of the body: all of it, the character at a position, or a field. -/
inductive Part where
  | all
  | character (position : Nat)
  | field (name : String)
  deriving Repr, DecidableEq

/-- A complaint about a request, with the value that is not as it should be. -/
structure Complaint where
  code : Code
  part : Part := .all
  found : Data := .null

/-- What a response holds. -/
inductive Content where
  | json (v : Data)
  | text (s : String)
  | page (s : String)
  | complaints (list : List Complaint)
  | nothing

/-- The kind of a content, as a header gives it. -/
def Content.kind? : Content → Option String
  | .json _ | .complaints _ => some "application/json"
  | .text _ => some "text/plain; charset=utf-8"
  | .page _ => some "text/html; charset=utf-8"
  | .nothing => none

/-- A response. -/
structure Response where
  status : Nat := 200
  content : Content

/-- A mapping with texts for keys. -/
def object (fields : List (String × Data)) : Data :=
  .mapping (fields.map fun (k, v) => (.text k, v))

/-- A response that says in one sentence why a request is refused. -/
def refuse (status : Nat) (detail : String) : Response :=
  ⟨status, .json (object [("detail", .text detail)])⟩

mutual

/-- Whether all floats in a value are finite. -/
def isFinite : Data → Bool
  | .float x => x.isFinite
  | .list items => areFinite items
  | .mapping entries => haveFinite entries
  | _ => true

/-- Whether all floats in some values are finite. -/
def areFinite : List Data → Bool
  | [] => true
  | v :: rest => isFinite v && areFinite rest

/-- Whether all floats in the values of some entries are finite. -/
def haveFinite : List (Data × Data) → Bool
  | [] => true
  | (_, v) :: rest => isFinite v && haveFinite rest

end

/-- Checks that a complaint can be written: bytes that were found have to be a text, and floats
finite. -/
def Complaint.check (c : Complaint) : Except Problem Unit :=
  match c.found with
  | .bytes bs => match Text.decodeUtf8 bs with
    | .ok _ => .ok ()
    | .error e => .error ⟨"UnicodeDecodeError", e.message⟩
  | found =>
    if isFinite found then .ok ()
    else .error ⟨"ValueError", "Out of range float values are not JSON compliant"⟩

/-- A response with complaints about a request. -/
def complain (list : List Complaint) : Except Problem Response := do
  list.forM Complaint.check
  return ⟨422, .complaints list⟩

/-! ## Values in a response -/

mutual

/-- How deeply values are nested in a value, which itself is the first of them. -/
def depth : Data → Nat
  | .list items => depthOfItems items + 1
  | .mapping entries => depthOfEntries entries + 1
  | _ => 1

/-- The depth of the deepest of some values. -/
def depthOfItems : List Data → Nat
  | [] => 0
  | v :: rest => max (depth v) (depthOfItems rest)

/-- The depth of the deepest value of some entries. -/
def depthOfEntries : List (Data × Data) → Nat
  | [] => 0
  | (_, v) :: rest => max (depth v) (depthOfEntries rest)

end

/-- How deeply the values of a response may be nested. -/
def responseDepth : Nat := 254

mutual

/-- A value as a JSON document can hold it: a float that is not finite is left out. -/
def finite : Data → Data
  | .float x => if x.isFinite then .float x else .null
  | .list items => .list (finiteItems items)
  | .tuple items => .list (finiteItems items)
  | .mapping entries => .mapping (finiteEntries entries)
  | v => v

/-- The values of a list as a JSON document can hold them. -/
def finiteItems : List Data → List Data
  | [] => []
  | v :: rest => finite v :: finiteItems rest

/-- The entries of a mapping as a JSON document can hold them. -/
def finiteEntries : List (Data × Data) → List (Data × Data)
  | [] => []
  | (k, v) :: rest => (k, finite v) :: finiteEntries rest

end

mutual

/-- What is said of the first text in a value that cannot be written. -/
def unwritableText? : Data → Option String
  | .text s => Text.halfComplaint? s
  | .list items => unwritableInItems? items
  | .mapping entries => unwritableInEntries? entries
  | _ => none

@[inherit_doc unwritableText?]
def unwritableInItems? : List Data → Option String
  | [] => none
  | v :: rest => (unwritableText? v).or (unwritableInItems? rest)

@[inherit_doc unwritableText?]
def unwritableInEntries? : List (Data × Data) → Option String
  | [] => none
  | (k, v) :: rest =>
    ((unwritableText? k).or (unwritableText? v)).or (unwritableInEntries? rest)

end

end SnippetRunner.Http
