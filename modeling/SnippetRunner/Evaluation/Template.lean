import SnippetRunner.Evaluation.Conversion
import SnippetRunner.Evaluation.Item

/-!
# Texts with places to fill

A text before `%` is a template: after each percent sign stands how a value is written there. A
template is first taken apart into pieces, and then its places are filled from left to right. A byte
string can be a template as well; its places take bytes where those of a text take texts.
-/

namespace SnippetRunner.Evaluation

/-- A number in a template: left out, written, or taken from the values. -/
inductive TemplateNumber where
  | absent
  | written (n : Nat)
  | given
  deriving Repr, DecidableEq

/-- One place of a template. -/
structure TemplatePlace where
  key : Option String
  flags : List Char
  width : TemplateNumber
  precision : TemplateNumber
  kind : Char
  /-- Where its letter stands. -/
  index : Nat

/-- A part of a template. -/
inductive TemplatePiece where
  | text (s : String)
  | place (p : TemplatePlace)
  /-- The template ends inside a place. -/
  | broken (complaint : String)

namespace TemplatePiece

/-- The key of a place up to its closing bracket; brackets inside count. -/
def readKey : Nat → List Char → Option (List Char × List Char)
  | _, [] => none
  | 0, ')' :: rest => some ([], rest)
  | depth, c :: rest =>
    let depth := if c == '(' then depth + 1 else if c == ')' then depth - 1 else depth
    (readKey depth rest).map fun (key, rest) => (c :: key, rest)

/-- A width or a precision. -/
def readNumber (cs : List Char) : TemplateNumber × List Char :=
  match cs with
  | '*' :: rest => (.given, rest)
  | _ =>
    match Layout.readDigits cs with
    | (some n, rest) => (.written n, rest)
    | (none, rest) => (.absent, rest)

/-- One place after its percent sign, in a template of `size` characters. -/
def readPlace (size : Nat) (cs : List Char) : TemplatePiece × List Char :=
  let keyed : Option (Option String × List Char) := match cs with
    | '(' :: rest => (readKey 0 rest).map fun (key, rest) => (some (String.ofList key), rest)
    | _ => some (none, cs)
  match keyed with
  | none => (.broken "incomplete format key", [])
  | some (key, cs) =>
    let flags := cs.takeWhile ['-', '+', ' ', '#', '0'].contains
    let (width, cs) := readNumber (cs.drop flags.length)
    let (precision, cs) := match cs with
      | '.' :: rest =>
        match readNumber rest with
        | (.absent, rest) => (.written 0, rest)
        | found => found
      | _ => (.absent, cs)
    let cs := match cs with
      | c :: rest => if ['h', 'l', 'L'].contains c then rest else cs
      | [] => cs
    match cs with
    | [] => (.broken "incomplete format", [])
    | kind :: rest =>
      (.place { key, flags, width, precision, kind, index := size - cs.length }, rest)

/-- The pieces of a template of `size` characters; `fuel` bounds their number. -/
def readAll (size : Nat) : Nat → List Char → List TemplatePiece
  | 0, _ | _, [] => []
  | fuel + 1, '%' :: '%' :: rest => .text "%" :: readAll size fuel rest
  | fuel + 1, '%' :: rest =>
    let (piece, rest) := readPlace size rest
    piece :: readAll size fuel rest
  | fuel + 1, cs =>
    let text := cs.takeWhile (· != '%')
    .text (String.ofList text) :: readAll size fuel (cs.drop text.length)

/-- The pieces of a template. -/
def ofText (s : String) : List TemplatePiece := readAll s.length (s.length + 1) s.toList

end TemplatePiece

/-- The values that fill a template, and those that are left. -/
structure TemplateValues where
  whole : Value
  left : List Value
  /-- Whether places can have keys. -/
  keyed : Bool
  /-- Whether the template is a byte string. -/
  narrow : Bool := false

/-- Takes the next value. -/
def TemplateValues.next (vs : TemplateValues) : Native (Value × TemplateValues) :=
  match vs.left with
  | v :: left => return (v, { vs with left })
  | [] => Native.typeError "not enough arguments for format string"

/-- A width or a precision as a number. -/
def TemplateNumber.value (n : TemplateNumber) (complaint : String) (vs : TemplateValues) :
    Native (Option Int × TemplateValues) := do
  match n with
  | .absent => return (none, vs)
  | .written n => return (some n, vs)
  | .given =>
    let (v, vs) ← vs.next
    match v.int? with
    | some n => return (some n, vs)
    | none => Native.typeError complaint

/-- A value as a whole number for a letter. That a value is none is told in words of its own, and
so is a type error of its class. -/
def wholeNumber (kind : Char) (v : Value) : Native Int := do
  let hexadecimal := ['x', 'X', 'o'].contains kind
  let refuse : Native Int := do
    let wanted := if hexadecimal then "an integer" else "a real number"
    let typeName := (← Native.heap).typeName v
    Native.typeError s!"%{kind} format: {wanted} is required, not {typeName}"
  let found ← try (if hexadecimal then indexOf? v else integerOf? v) catch
    | .fail error fresh => do
      let h ← Native.heap
      let raised := ((h.error? error).map (·.kind)).getD .none
      if h.inherits raised (.type "TypeError") then pure none else throw (.fail error fresh)
    | halt => throw halt
  match found with
  | some n => return n
  | none => refuse

/-- What fills a place: a sign, a mark of the base and the rest. -/
structure Filling where
  sign : String := ""
  mark : String := ""
  body : String

namespace TemplatePlace

/-- Whether a place has a flag. -/
def flagged (p : TemplatePlace) (flag : Char) : Bool := p.flags.contains flag

/-- The sign of a number. -/
def signOf (p : TemplatePlace) (negative : Bool) : String :=
  if negative then "-" else if p.flagged '+' then "+" else if p.flagged ' ' then " " else ""

/-- A filling in its width. Numbers may have zeros between their mark and their digits. -/
def pad (p : TemplatePlace) (width : Int) (numeric : Bool) (f : Filling) : String :=
  let missing := width.natAbs - (f.sign.length + f.mark.length + f.body.length)
  let fill (c : Char) : String := String.ofList (List.replicate missing c)
  if p.flagged '-' || width < 0 then f.sign ++ f.mark ++ f.body ++ fill ' '
  else if numeric && p.flagged '0' then f.sign ++ f.mark ++ fill '0' ++ f.body
  else fill ' ' ++ f.sign ++ f.mark ++ f.body

/-- An integer at a place. -/
def fillInt (p : TemplatePlace) (precision : Option Nat) (n : Int) : Native Filling := do
  let (base, mark) := match p.kind with
    | 'x' | 'X' => (16, "0x")
    | 'o' => (8, "0o")
    | _ => (10, "")
  let digits ←
    if base = 10 then decimalOf n.natAbs
    else pure (String.ofList (Nat.toDigits base n.natAbs))
  let digits := Text.padLeft (precision.getD 0) '0' digits
  let mark := if p.flagged '#' then mark else ""
  return { sign := p.signOf (n < 0)
           mark := if p.kind == 'X' then mark.toUpper else mark
           body := if p.kind == 'X' then digits.toUpper else digits }

/-- A float at a place. -/
def fillFloat (p : TemplatePlace) (precision : Option Nat) (x : Float) : Filling :=
  let l : Layout :=
    { alternate := p.flagged '#', precision := some (precision.getD 6), kind := some p.kind }
  let (negative, body) := floatParts l false x
  { sign := p.signOf negative, body }

/-- A character at a place. -/
def fillCharacter (v : Value) : Native Filling := do
  match ← indexOf? v, (← Native.heap).text? v with
  | _, some s =>
    if s.length = 1 then return { body := s } else Native.typeError "%c requires int or char"
  | some n, none =>
    if 0 ≤ n ∧ n < 0x110000 then return { body := (Text.charOf n.toNat).toString }
    else Native.fail "OverflowError" "%c arg not in range(0x110000)"
  | none, none => Native.typeError "%c requires int or char"

/-- A byte at a place of a byte string. -/
def fillByte (v : Value) : Native Filling := do
  match ← bytes? v, ← indexOf? v with
  | some [b], _ => return { body := byteText [b] }
  | none, some n =>
    if 0 ≤ n ∧ n < 256 then return { body := byteText [n.toNat.toUInt8] }
    else Native.fail "OverflowError" "%c arg not in range(256)"
  | _, _ =>
    let typeName := (← Native.heap).typeName v
    Native.typeError
      s!"%c requires an integer in range(256) or a single byte, not {typeName}"

/-- The bytes that a value puts at a place of a byte string. -/
def bytesPart (v : Value) : Native String := do
  let h ← Native.heap
  match ← bytes? v, h.special? v "__bytes__" with
  | some bs, _ => return byteText bs
  | none, some method =>
    match ← askMethod v method [] with
    | .bytes bs => return byteText bs
    | answer =>
      let typeName := (← Native.heap).typeName answer
      Native.typeError s!"__bytes__ returned non-bytes (type {typeName})"
  | none, none =>
    Native.typeError ("%b requires a bytes-like object, or an object that implements __bytes__, "
      ++ s!"not '{h.typeName v}'")

/-- A value at a place. -/
def fill (p : TemplatePlace) (narrow : Bool) (width : Int) (precision : Option Nat) (v : Value) :
    Native String := do
  let cut (s : String) : Filling :=
    { body := match precision with
        | some n => String.ofList (s.toList.take n)
        | none => s }
  if itemLimit < width.natAbs || itemLimit < precision.getD 0 then Native.endless
  if narrow && (p.kind == 's' || p.kind == 'b') then
    return p.pad width false (cut (← bytesPart v))
  else if narrow && (p.kind == 'r' || p.kind == 'a') then
    return p.pad width false (cut (Text.asciiOnly (← inspect v)))
  else if narrow && p.kind == 'c' then return p.pad width false (← fillByte v)
  else if p.kind == 's' then return p.pad width false (cut (← textOf v))
  else if p.kind == 'r' then return p.pad width false (cut (← inspect v))
  else if p.kind == 'a' then return p.pad width false (cut (Text.asciiOnly (← inspect v)))
  else if ['d', 'i', 'u', 'x', 'X', 'o'].contains p.kind then
    return p.pad width true (← p.fillInt precision (← wholeNumber p.kind v))
  else if ['e', 'E', 'f', 'F', 'g', 'G'].contains p.kind then
    return p.pad width true (p.fillFloat precision (← realArgument v))
  else if p.kind == 'c' then return p.pad width false (← fillCharacter v)
  else
    let code := Text.hexText p.kind.toNat
    let shown := if 31 ≤ p.kind.toNat ∧ p.kind.toNat ≤ 126 then p.kind else '?'
    Native.valueError s!"unsupported format character '{shown}' (0x{code}) at index {p.index}"

end TemplatePlace

/-- The pieces of a template as one text, and the values that are left. -/
def fillPieces : List TemplatePiece → TemplateValues → Native (String × TemplateValues)
  | [], vs => return ("", vs)
  | .text s :: rest, vs => do
    let (text, vs) ← fillPieces rest vs
    return (s ++ text, vs)
  | .broken complaint :: _, _ => Native.valueError complaint
  | .place p :: rest, vs => do
    let vs ← match p.key with
      | none => pure vs
      | some key =>
        if vs.keyed then
          let key : Value := if vs.narrow then .bytes (textBytes key) else .text key
          pure { vs with left := [← itemOf vs.whole key] }
        else Native.typeError "format requires a mapping"
    let (width, vs) ← p.width.value "* wants int" vs
    let (precision, vs) ← p.precision.value "* wants int" vs
    let (v, vs) ← vs.next
    let filled ← p.fill vs.narrow (width.getD 0) (precision.map Int.toNat) v
    let (text, vs) ← fillPieces rest vs
    return (filled ++ text, vs)

/-- A template filled with a value, or with all items of a tuple. -/
def filledTemplate (template : String) (narrow : Bool) (v : Value) : Native String := do
  let h ← Native.heap
  let keyed := (h.special? v "__getitem__").isSome || match h.core v with
    | .tuple _ => false
    | .text _ => narrow
    | .bytes _ => ! narrow
    | .range _ _ _ => true
    | core => (h.list? core).isSome || (h.mapping? core).isSome
  let left := match h.core v with
    | .tuple items => items
    | _ => [v]
  let (text, vs) ← fillPieces (TemplatePiece.ofText template) { whole := v, left, keyed, narrow }
  if ! vs.left.isEmpty && ! keyed then
    let noun := if narrow then "bytes" else "string"
    Native.typeError s!"not all arguments converted during {noun} formatting"
  else return text

/-- A text filled with a value. -/
def fillTemplate (template : String) (v : Value) : Native Value := do
  return .text (← filledTemplate template false v)

/-- A byte string filled with a value; `self` is the value that it belongs to. -/
def fillBytes (self : Value) (template : List UInt8) (v : Value) : Native Value := do
  bytesLike self (textBytes (← filledTemplate (byteText template) true v))

end SnippetRunner.Evaluation
