import SnippetRunner.Data
import SnippetRunner.Number.Reading
import SnippetRunner.Text.Half

/-!
# JSON documents

Reads a JSON text into plain data. Beside the standard, the names of infinity and of what is no
number are read as floats. The first fault is reported with its place.
-/

namespace SnippetRunner.Document.Json

/-- What is wrong with a JSON text. -/
inductive FaultKind where
  | expectingValue
  | expectingName
  | expectingColon
  | expectingComma
  | extraData
  | unterminated
  | controlCharacter
  | badEscape
  | badCodeEscape
  | byteOrderMark
  deriving Repr, DecidableEq

/-- The words for a fault. -/
def FaultKind.words : FaultKind → String
  | .expectingValue => "Expecting value"
  | .expectingName => "Expecting property name enclosed in double quotes"
  | .expectingColon => "Expecting ':' delimiter"
  | .expectingComma => "Expecting ',' delimiter"
  | .extraData => "Extra data"
  | .unterminated => "Unterminated string starting at"
  | .controlCharacter => "Invalid control character at"
  | .badEscape => "Invalid \\escape"
  | .badCodeEscape => "Invalid \\uXXXX escape"
  | .byteOrderMark => "Unexpected UTF-8 BOM (decode using utf-8-sig)"

/-- What holds other values. -/
inductive Holder where
  | array
  | object
  deriving Repr, DecidableEq

/-- The word for what holds other values. -/
def Holder.word : Holder → String
  | .array => "array"
  | .object => "object"

/-- A fault while reading: a misplaced character, by the number of characters from it to the end,
an integer with too many digits, or values that are nested too deeply. -/
inductive Stop where
  | fault (kind : FaultKind) (remaining : Nat)
  | longInteger (digits : Nat)
  | tooDeep (innermost : Holder)
  deriving Repr, DecidableEq

/-- The fault before the given characters. -/
def faultAt {α : Type} (kind : FaultKind) (rest : List Char) : Except Stop α :=
  .error (.fault kind rest.length)

/-- Blanks between the parts of a document. -/
def isSpace (c : Char) : Bool := c == ' ' || c == '\t' || c == '\n' || c == '\r'

/-- Drops blanks. -/
def skipSpace (cs : List Char) : List Char := cs.dropWhile isSpace

/-! ## Texts -/

/-- The value of four hexadecimal digits; some character must follow them. -/
def fourDigits (cs : List Char) : Option Nat :=
  match cs with
  | a :: b :: c :: d :: _ :: _ =>
    if [a, b, c, d].all fun x => (Text.hexDigit? x).isSome then some (Text.hexValue [a, b, c, d])
    else none
  | _ => none

/-- The low half of a character written as two code units, if one follows. -/
def lowHalf (cs : List Char) : Except Stop (Option Nat) :=
  match cs with
  | '\\' :: 'u' :: more =>
    if more.length ≤ 4 then .ok none
    else match fourDigits more with
      | none => faultAt .badCodeEscape ('u' :: more)
      | some code => .ok (if 0xdc00 ≤ code ∧ code ≤ 0xdfff then some code else none)
  | _ => .ok none

/-- Reads the escape after `\u`. -/
def readCode (cs : List Char) : Except Stop (Char × List Char) :=
  match fourDigits cs with
  | none => faultAt .badCodeEscape ('u' :: cs)
  | some code =>
    let rest := cs.drop 4
    if 0xd800 ≤ code ∧ code ≤ 0xdbff then do
      match ← lowHalf rest with
      | some low =>
        return (Char.ofNat (0x10000 + (code - 0xd800) * 0x400 + (low - 0xdc00)), rest.drop 6)
      | none => return (Text.charOf code, rest)
    else .ok (Text.charOf code, rest)

/-- The character that one letter after a backslash stands for. -/
def letterEscape? (c : Char) : Option Char :=
  if c == '"' || c == '\\' || c == '/' then some c
  else if c == 'b' then some '\x08'
  else if c == 'f' then some '\x0c'
  else if c == 'n' then some '\n'
  else if c == 'r' then some '\r'
  else if c == 't' then some '\t'
  else none

/-- Reads the rest of a text after its opening quote; `whole` starts with that quote and `seen`
holds the characters read so far, the last one first. -/
def readText (whole : List Char) : Nat → List Char → List Char → Except Stop (String × List Char)
  | 0, _, _ => faultAt .unterminated whole
  | fuel + 1, seen, cs =>
    match cs with
    | [] => faultAt .unterminated whole
    | '"' :: rest => .ok (String.ofList seen.reverse, rest)
    | '\\' :: [] => faultAt .unterminated whole
    | '\\' :: 'u' :: rest => do
      let (c, rest) ← readCode rest
      readText whole fuel (c :: seen) rest
    | '\\' :: c :: rest =>
      match letterEscape? c with
      | some d => readText whole fuel (d :: seen) rest
      | none => faultAt .badEscape cs
    | c :: rest =>
      if c.toNat ≤ 0x1f then faultAt .controlCharacter cs else readText whole fuel (c :: seen) rest

/-- Reads a text whose opening quote comes next. -/
def readQuoted (cs : List Char) : Except Stop (String × List Char) :=
  readText cs (cs.length + 1) [] (cs.drop 1)

/-! ## Numbers -/

/-- The digits of a fraction after a point, if there are any. -/
def spanFraction : List Char → List Char × List Char
  | '.' :: rest =>
    let (digits, more) := Number.spanDigits rest
    if digits.isEmpty then ([], '.' :: rest) else (digits, more)
  | cs => ([], cs)

/-- An exponent, if there is one. -/
def spanExponent : List Char → Option Int × List Char
  | [] => (none, [])
  | c :: rest =>
    let (negative, body) := Number.readSign rest
    let (digits, more) := Number.spanDigits body
    if (c == 'e' || c == 'E') && ! digits.isEmpty then
      (some (Number.signed negative (Number.digitsValue digits)), more)
    else (none, c :: rest)

/-- The whole part of a number: a zero, or digits that do not start with one. -/
def spanWhole : List Char → List Char × List Char
  | '0' :: rest => (['0'], rest)
  | cs => Number.spanDigits cs

/-- Reads a number; `start` is where it begins. -/
def readNumber (start : List Char) : Except Stop (Data × List Char) :=
  let (negative, body) := match start with
    | '-' :: rest => (true, rest)
    | _ => (false, start)
  let (whole, rest) := spanWhole body
  if whole.isEmpty then faultAt .expectingValue start
  else
    let (fraction, rest) := spanFraction rest
    let (exponent, rest) := spanExponent rest
    if fraction.isEmpty && exponent.isNone then
      if Number.digitLimit < whole.length then .error (.longInteger whole.length)
      else .ok (.int (Number.signed negative (Number.digitsValue whole)), rest)
    else
      let x := Number.scaled (Number.digitsValue (whole ++ fraction))
        (exponent.getD 0 - fraction.length)
      .ok (.float (if negative then -x else x), rest)

/-! ## Values -/

/-- The words that stand for a value. -/
def words : List (String × Data) :=
  [("null", .null), ("true", .bool true), ("false", .bool false), ("NaN", .float (0.0 / 0.0)),
    ("Infinity", .float (1.0 / 0.0)), ("-Infinity", .float (-1.0 / 0.0))]

/-- Reads one of the words. -/
def readWord? (cs : List Char) : Option (Data × List Char) :=
  words.findSome? fun (word, value) =>
    if word.toList.isPrefixOf cs then some (value, cs.drop word.length) else none

mutual

/-- Reads a value; `room` is how deeply values may still be nested in it. -/
def readValue (room : Nat) : Nat → List Char → Except Stop (Data × List Char)
  | 0, cs => faultAt .expectingValue cs
  | fuel + 1, cs =>
    match cs with
    | '"' :: _ => do
      let (s, rest) ← readQuoted cs
      return (.text s, rest)
    | '\x7b' :: rest =>
      if room = 0 then .error (.tooDeep .object)
      else match skipSpace rest with
        | '\x7d' :: more => .ok (.mapping [], more)
        | rest => readEntries (room - 1) fuel [] rest
    | '[' :: rest =>
      if room = 0 then .error (.tooDeep .array)
      else match skipSpace rest with
        | ']' :: more => .ok (.list [], more)
        | rest => readItems (room - 1) fuel [] rest
    | _ =>
      match readWord? cs with
      | some found => .ok found
      | none => readNumber cs

/-- Reads the items of a list up to its end. -/
def readItems (room : Nat) : Nat → List Data → List Char → Except Stop (Data × List Char)
  | 0, _, cs => faultAt .expectingValue cs
  | fuel + 1, seen, cs => do
    let (v, rest) ← readValue room fuel cs
    match skipSpace rest with
    | ']' :: more => return (.list (v :: seen).reverse, more)
    | ',' :: more => readItems room fuel (v :: seen) (skipSpace more)
    | rest => faultAt .expectingComma rest

/-- Reads the entries of a mapping up to its end. -/
def readEntries (room : Nat) :
    Nat → List (Data × Data) → List Char → Except Stop (Data × List Char)
  | 0, _, cs => faultAt .expectingValue cs
  | fuel + 1, seen, cs =>
    match cs with
    | '"' :: _ => do
      let (name, rest) ← readQuoted cs
      match skipSpace rest with
      | ':' :: rest =>
        let (v, rest) ← readValue room fuel (skipSpace rest)
        match skipSpace rest with
        | '\x7d' :: more => return (.mapping (Data.collect ((.text name, v) :: seen).reverse), more)
        | ',' :: more => readEntries room fuel ((.text name, v) :: seen) (skipSpace more)
        | rest => faultAt .expectingComma rest
      | rest => faultAt .expectingColon rest
    | _ => faultAt .expectingName cs

end

/-- Reads a document of one value, in which values may be nested to a depth. -/
def readAll (depth : Nat) (cs : List Char) : Except Stop Data :=
  match cs with
  | '\ufeff' :: _ => faultAt .byteOrderMark cs
  | _ => do
    let (v, rest) ← readValue depth (2 * cs.length + 1) (skipSpace cs)
    match skipSpace rest with
    | [] => return v
    | rest => faultAt .extraData rest

/-! ## Documents -/

/-- A fault with its place: characters from zero on, lines and columns from one on. -/
structure Fault where
  kind : FaultKind
  position : Nat
  line : Nat
  column : Nat
  deriving Repr, DecidableEq

/-- Why a text is no document. -/
inductive Refusal where
  | fault (fault : Fault)
  | longInteger (digits : Nat)
  | tooDeep (innermost : Holder)
  deriving Repr, DecidableEq

/-- The place after the given characters. -/
def placeAfter (before : List Char) : Nat × Nat :=
  ((before.filter (· == '\n')).length + 1,
    (before.reverse.takeWhile (· != '\n')).length + 1)

/-- Reads a document in which values may be nested to a depth. -/
def read (depth : Nat) (source : String) : Except Refusal Data :=
  let cs := source.toList
  match readAll depth cs with
  | .ok v => .ok v
  | .error (.longInteger digits) => .error (.longInteger digits)
  | .error (.tooDeep innermost) => .error (.tooDeep innermost)
  | .error (.fault kind remaining) =>
    let position := cs.length - remaining
    let (line, column) := placeAfter (cs.take position)
    .error (.fault ⟨kind, position, line, column⟩)

/-- The message for a fault. -/
def Fault.message (f : Fault) : String :=
  s!"{f.kind.words}: line {f.line} column {f.column} (char {f.position})"

end SnippetRunner.Document.Json
