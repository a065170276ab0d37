import SnippetRunner.Evaluation.Conversion
import SnippetRunner.Evaluation.Member

/-!
# Texts with fields in braces

A text with fields in braces is filled from left to right: a field names an argument by its number
or its name, or takes the next one, goes on to members and items of it, and lays it out by a
format that may have fields itself. A brace that is written twice stands for itself.
-/

namespace SnippetRunner.Evaluation

/-- A field between braces. -/
structure Field where
  name : List Char
  conversion : Option Char := none
  format : List Char := []
  /-- Whether the format has fields itself. -/
  nested : Bool := false

namespace Field

/-- The name of a field up to the character that ends it, and what follows. -/
def readName : List Char → Except String (List Char × Option (Char × List Char))
  | [] => .ok ([], none)
  | c :: rest =>
    if c == '\x7b' then .error "unexpected '\x7b' in field name"
    else if c == '\x7d' || c == ':' || c == '!' then .ok ([], some (c, rest))
    else if c == '[' then (inBrackets rest).map fun (name, ending) => (c :: name, ending)
    else (readName rest).map fun (name, ending) => (c :: name, ending)
where
  /-- The same between brackets, where the other characters have no meaning. -/
  inBrackets : List Char → Except String (List Char × Option (Char × List Char))
    | [] => .ok ([], none)
    | c :: rest =>
      let others := if c == ']' then readName rest else inBrackets rest
      others.map fun (name, ending) => (c :: name, ending)

/-- A format up to the brace that ends its field, whether it has fields itself, and what
follows. -/
def readFormat : Nat → List Char → Except String (List Char × Bool × List Char)
  | _, [] => .error "unmatched '\x7b' in format spec"
  | depth, c :: rest =>
    let more (depth : Nat) (opens : Bool) : Except String (List Char × Bool × List Char) :=
      (readFormat depth rest).map fun (format, nested, rest) => (c :: format, opens || nested, rest)
    if c == '\x7b' then more (depth + 1) true
    else if c == '\x7d' then
      match depth with
      | 0 => .ok ([], false, rest)
      | depth + 1 => more depth false
    else more depth false

/-- A field after its first brace. -/
def read (cs : List Char) : Except String (Field × List Char) := do
  let withFormat (name : List Char) (conversion : Option Char) (rest : List Char) :
      Except String (Field × List Char) :=
    (readFormat 0 rest).map fun (format, nested, rest) => ({ name, conversion, format, nested }, rest)
  match ← readName cs with
  | (_, none) => throw "expected '\x7d' before end of string"
  | (name, some ('\x7d', rest)) => return ({ name }, rest)
  | (name, some (':', rest)) => withFormat name none rest
  | (name, some (_, rest)) =>
    match rest with
    | [] => throw "end of string while looking for conversion specifier"
    | conversion :: rest =>
      match rest with
      | '\x7d' :: rest => return ({ name, conversion := some conversion }, rest)
      | ':' :: rest => withFormat name (some conversion) rest
      | [] => withFormat name (some conversion) []
      | _ => throw "expected ':' after conversion specifier"

end Field

/-- The text before the next field, the field if there is one, and what follows. -/
def nextField (cs : List Char) : Except String (List Char × Option Field × List Char) :=
  let plain := cs.takeWhile fun c => c != '\x7b' && c != '\x7d'
  match cs.drop plain.length with
  | [] => .ok (plain, none, [])
  | brace :: rest =>
    if rest.head? == some brace then .ok (plain ++ [brace], none, rest.drop 1)
    else if brace == '\x7d' then .error "Single '\x7d' encountered in format string"
    else if rest.isEmpty then .error "Single '\x7b' encountered in format string"
    else (Field.read rest).map fun (field, rest) => (plain, some field, rest)

/-- How fields without a name find their arguments. -/
inductive Numbering where
  | open
  | automatic (next : Nat)
  | manual

/-- The values that fields are filled with. -/
structure FieldValues where
  /-- The arguments by position, if there can be any. -/
  args : Option (List Value)
  /-- What has the arguments by name. -/
  named : Value

/-- The greatest number in a field. -/
def fieldLimit : Nat := 9223372036854775807

/-- The number that a part of a field's name writes, if it is one. -/
def partNumber? (cs : List Char) : Native (Option Nat) := do
  match cs.mapM Text.decimalValue? with
  | none | some [] => return none
  | some digits =>
    let n := digits.foldl (fun n d => 10 * n + d) 0
    if fieldLimit < n then Native.valueError "Too many decimal digits in format string"
    return some n

/-- Goes on from a value to members and items of it; `fuel` bounds their number. -/
def followParts : Nat → Value → List Char → Native Value
  | 0, v, _ | _, v, [] => return v
  | fuel + 1, v, c :: rest => do
    let filled (part : List Char) : Native Unit :=
      if part.isEmpty then Native.valueError "Empty attribute in format string" else return
    match c with
    | '.' =>
      let part := rest.takeWhile fun c => c != '.' && c != '['
      filled part
      followParts fuel (← memberOf v (String.ofList part)) (rest.drop part.length)
    | '[' =>
      let part := rest.takeWhile (· != ']')
      if part.length = rest.length then Native.valueError "Missing ']' in format string"
      let index ← partNumber? part
      filled part
      let item ← match index with
        | some n => itemOf v (.int n)
        | none => itemOf v (.text (String.ofList part))
      followParts fuel item (rest.drop (part.length + 1))
    | _ =>
      Native.valueError "Only '.' or '[' may follow ']' in format field specifier"

/-- The number of an argument for a field, and how the next ones find theirs. -/
def Numbering.take (numbering : Numbering) (written : Option Nat) : Native (Nat × Numbering) := do
  match numbering, written with
  | .open, none => return (0, .automatic 1)
  | .open, some n => return (n, .manual)
  | .automatic next, none => return (next, .automatic (next + 1))
  | .manual, some n => return (n, .manual)
  | .manual, none =>
    Native.valueError
      "cannot switch from manual field specification to automatic field numbering"
  | .automatic _, some _ =>
    Native.valueError
      "cannot switch from automatic field numbering to manual field specification"

/-- The value that a field stands for. -/
def fieldValue (values : FieldValues) (numbering : Numbering) (name : List Char) :
    Native (Value × Numbering) := do
  let first := name.takeWhile fun c => c != '.' && c != '['
  let written ← partNumber? first
  let (v, numbering) ←
    if ! first.isEmpty && written.isNone then
      pure (← itemOf values.named (.text (String.ofList first)), numbering)
    else
      let (n, numbering) ← match values.args with
        | some _ => numbering.take written
        | none =>
          if first.isEmpty || written.isSome then
            Native.valueError "Format string contains positional fields"
          else pure (0, numbering)
      match (values.args.getD [])[n]? with
      | some v => pure (v, numbering)
      | none =>
        Native.fail "IndexError" s!"Replacement index {n} out of range for positional args tuple"
  return (← followParts (name.length + 1) v (name.drop first.length), numbering)

/-- A value as a field's conversion shows it. -/
def convertedField (v : Value) : Option Char → Native Value
  | none => return v
  | some 'r' => return .text (← inspect v)
  | some 's' => return .text (← textOf v)
  | some 'a' => return .text (Text.asciiOnly (← inspect v))
  | some c => Native.valueError s!"Unknown conversion specifier {Layout.shownLetter c}"

/-- A text with its fields filled; `depth` bounds how far fields are inside formats, and `fuel`
how many there are. -/
def fillFieldsIn (values : FieldValues) : Nat → Nat → Numbering → List Char →
    Native (String × Numbering)
  | 0, _, _, _ => Native.valueError "Max string recursion exceeded"
  | _, 0, numbering, _ | _, _, numbering, [] => return ("", numbering)
  | depth + 1, fuel + 1, numbering, cs => do
    match nextField cs with
    | .error complaint => Native.valueError complaint
    | .ok (plain, field, rest) =>
      let (shown, numbering) ← match field with
        | none => pure ("", numbering)
        | some f => do
          let (v, numbering) ← fieldValue values numbering f.name
          let v ← convertedField v f.conversion
          let (format, numbering) ←
            if f.nested then fillFieldsIn values depth (f.format.length + 1) numbering f.format
            else pure (String.ofList f.format, numbering)
          pure (← formatted v format, numbering)
      let (more, numbering) ← fillFieldsIn values (depth + 1) fuel numbering rest
      return (String.ofList plain ++ shown ++ more, numbering)

/-- A text with its fields filled. -/
def fillFields (text : String) (values : FieldValues) : Native Value := do
  return .text (← fillFieldsIn values 2 (text.length + 1) .open text.toList).1

end SnippetRunner.Evaluation
