import SnippetRunner.Document.Yaml.Scalar
import SnippetRunner.Text.Utf8

/-!
# The tokens of a document

Reads one token after another. A token is handed out as soon as it is known that it begins no key,
so that what is wrong later in the document is not met before it is needed.
-/

namespace SnippetRunner.Document.Yaml

namespace Scan

/-! ## Directives, anchors and tags -/

/-- Takes the digits of a version. -/
def versionNumber : Scan String := do
  let digits ← takeWhile Char.isDigit
  require (! digits.isEmpty)
  return String.ofList digits

/-- Takes the handle of a tag, with its exclamation marks. -/
def tagHandle : Scan String := do
  require ((← peek) == '!')
  forward 1
  if (← peek) == ' ' then return "!"
  else
    let name ← takeWhile isNameChar
    require ((← peek) == '!')
    forward 1
    return "!" ++ String.ofList name ++ "!"

/-- The byte that two digits stand for. -/
def hexByte? : List Char → Option UInt8
  | [a, b] =>
    let digit? (c : Char) : Option Nat :=
      if c.isDigit then some (c.toNat - 48)
      else if 'a' ≤ c ∧ c ≤ 'f' then some (c.toNat - 87)
      else if 'A' ≤ c ∧ c ≤ 'F' then some (c.toNat - 55)
      else none
    match digit? a, digit? b with
    | some x, some y => some (16 * x + y).toUInt8
    | _, _ => none
  | _ => none

/-- The bytes that are written by number ahead, and how many there are. -/
def escapedBytes : Nat → List Char → Option (List UInt8)
  | 0, _ => some []
  | fuel + 1, '%' :: a :: b :: rest => do
    let byte ← hexByte? [a, b]
    let more ← escapedBytes fuel rest
    return byte :: more
  | _ + 1, '%' :: _ => none
  | _ + 1, _ => some []

/-- A character of a tag. -/
def isTagChar (c : Char) : Bool :=
  c.isAlphanum || "-;/?:@&=+$,_.!~*()[]".toList.contains c || c == '\''

/-- Takes the text of a tag; bytes that are written by number have to be a text. -/
def tagTextFrom : Nat → Scan String
  | 0 => return ""
  | fuel + 1 => do
    let word ← takeWhile isTagChar
    if (← peek) == '%' then
      let rest := (← get).rest
      match escapedBytes (← Scan.fuel) rest with
      | none => malformed
      | some bytes =>
        match Text.decodeUtf8 bytes with
        | .error _ => malformed
        | .ok s =>
          forward (3 * bytes.length)
          return String.ofList word ++ s ++ (← tagTextFrom fuel)
    else return String.ofList word

/-- Takes the text of a tag, which must not be empty. -/
def tagText : Scan String := do
  let s ← tagTextFrom (← Scan.fuel)
  require (! s.isEmpty)
  return s

/-- Takes a directive. -/
def directive : Scan Unit := do
  forward 1
  let name := String.ofList (← takeWhile isNameChar)
  require (! name.isEmpty && isSpaceOrEnd (← peek))
  let value ← match name with
    | "YAML" => do
      let _ ← takeWhile (· == ' ')
      let major ← versionNumber
      require ((← peek) == '.')
      forward 1
      let minor ← versionNumber
      require (isSpaceOrEnd (← peek))
      pure (major, minor)
    | "TAG" => do
      let _ ← takeWhile (· == ' ')
      let handle ← tagHandle
      require ((← peek) == ' ')
      let _ ← takeWhile (· == ' ')
      let start ← tagText
      require (isSpaceOrEnd (← peek))
      pure (handle, start)
    | _ => do
      let _ ← takeWhile fun c => ! isLineEnd c
      pure ("", "")
  restOfLine
  emit (.directive name value)

/-- What can follow the name of an anchor or an alias. -/
def endsAnchor (c : Char) : Bool :=
  isGap c || ['?', ':', ',', ']', '\x7d', '%', '@', '\x60'].contains c

/-- Takes the name of an anchor or an alias. -/
def anchorName : Scan String := do
  forward 1
  let name ← takeWhile isNameChar
  require (! name.isEmpty && endsAnchor (← peek))
  return String.ofList name

/-- Whether a tag ahead begins with a handle: an exclamation mark before the next space. -/
def hasHandle : Scan Bool := do
  let more := (← get).rest.drop 1
  let word := more.takeWhile fun c => ! isSpaceOrEnd c
  if word.contains '!' then return true
  else
    if word.length = more.length then atEnd
    return false

/-- Takes a tag. -/
def tagMark : Scan Unit := do
  let next ← peekAt 1
  if next == '<' then
    forward 2
    let suffix ← tagText
    require ((← peek) == '>')
    forward 1
    require (isSpaceOrEnd (← peek))
    emit (.tag none suffix)
  else if isGap next then
    forward 1
    require (isSpaceOrEnd (← peek))
    emit (.tag none "!")
  else
    let handle ← if ← hasHandle then tagHandle
      else do
        forward 1
        pure "!"
    let suffix ← tagText
    require (isSpaceOrEnd (← peek))
    emit (.tag (some handle) suffix)

/-! ## All tokens -/

/-- Goes past spaces, comments and line breaks. -/
def toNextToken : Nat → Scan Unit
  | 0 => return
  | fuel + 1 => do
    let _ ← takeWhile (· == ' ')
    if (← peek) == '#' then
      let _ ← takeWhile fun c => ! isLineEnd c
    let lineEnd ← lineBreak
    if ! lineEnd.isEmpty then
      if (← get).flow = 0 then allowKey true
      toNextToken fuel

/-- Takes an indicator that opens a flow collection. -/
def openFlow (t : Token) : Scan Unit := do
  notePossible
  modify fun s => { s with flow := s.flow + 1, keyAllowed := true }
  forward 1
  emit t

/-- Takes an indicator that closes a flow collection. -/
def closeFlow (t : Token) : Scan Unit := do
  dropPossible
  modify fun s => { s with flow := s.flow - 1, keyAllowed := false }
  forward 1
  emit t

/-- Opens a block collection at the current column, if a key or an entry may stand here. -/
def openBlock (t : Token) : Scan Unit := do
  let s ← get
  if s.flow = 0 then
    require s.keyAllowed
    if ← indentTo s.column then emit t

/-- Takes the indicator of an entry or of a key. -/
def blockMark (opening t : Token) (inFlow : Bool) : Scan Unit := do
  openBlock opening
  allowKey (inFlow || (← get).flow = 0)
  dropPossible
  forward 1
  emit t

/-- Takes the indicator of a value. If a key may have begun on this line, it did. -/
def valueMark : Scan Unit := do
  let s ← get
  match s.possible.find? (·.1 == s.flow) with
  | some (_, k) =>
    set { s with
      possible := s.possible.filter (·.1 != s.flow)
      tokens := s.tokens.insertIdxIfInBounds k.token .key }
    if s.flow = 0 then
      if ← indentTo k.column then
        modify fun s => { s with tokens := s.tokens.insertIdxIfInBounds k.token .blockMapping }
    allowKey false
  | none =>
    openBlock .blockMapping
    allowKey (s.flow = 0)
    dropPossible
  forward 1
  emit .value

/-- Takes something that may be a key by itself. -/
def keyLike (body : Scan Unit) : Scan Unit := do
  notePossible
  allowKey false
  body

/-- Takes something that begins at the margin and ends all blocks. -/
def atMargin (body : Scan Unit) : Scan Unit := do
  unwind (-1)
  dropPossible
  allowKey false
  body

/-- A character that has a meaning at the beginning of a scalar. -/
def isIndicator (c : Char) : Bool :=
  isFlowMark c ||
      ['-', '?', ':', '#', '&', '*', '!', '|', '>', '\'', '"', '%', '@', '\x60'].contains c

/-- Whether a plain scalar begins here. -/
def startsPlain (c next : Char) (inFlow : Bool) : Bool :=
  (! isGap c && ! isIndicator c)
    || (! isGap next && (c == '-' || (! inFlow && (c == '?' || c == ':'))))

/-- Notes how many tokens can be handed out: all before one that may still begin a key. -/
def noteReady : Scan Unit := modify fun s =>
  let pending := s.possible.filter fun (_, k) => ! s.isStale k
  { s with ready := pending.foldl (fun n (_, k) => min n k.token) s.tokens.size }

/-- Takes the next token; whether there was one. -/
def nextToken : Scan Bool := do
  noteReady
  toNextToken (← Scan.fuel)
  dropStale
  unwind (← get).column
  let s ← get
  let c ← peek
  let next ← peekAt 1
  let inFlow := s.flow != 0
  if s.rest.isEmpty then
    atMargin (return)
    return false
  if c == '%' && s.column == 0 then atMargin directive
  else if s.column == 0 && (← isSeparator) then
    atMargin do
      forward 3
      emit (if c == '-' then .documentStart else .documentEnd)
  else if c == '[' then openFlow .flowSequence
  else if c == '\x7b' then openFlow .flowMapping
  else if c == ']' then closeFlow .flowSequenceEnd
  else if c == '\x7d' then closeFlow .flowMappingEnd
  else if c == ',' then
    allowKey true
    dropPossible
    forward 1
    emit .flowEntry
  else if c == '-' && isGap next then blockMark .blockSequence .entry true
  else if c == '?' && (inFlow || isGap next) then blockMark .blockMapping .key false
  else if c == ':' && (inFlow || isGap next) then valueMark
  else if c == '*' then keyLike do emit (.reference (← anchorName))
  else if c == '&' then keyLike do emit (.anchor (← anchorName))
  else if c == '!' then keyLike tagMark
  else if (c == '|' || c == '>') && ! inFlow then
    allowKey true
    dropPossible
    blockScalar (c == '>')
  else if c == '\'' then keyLike (quotedScalar false)
  else if c == '"' then keyLike (quotedScalar true)
  else if startsPlain c next inFlow then keyLike plainScalar
  else malformed
  return true

/-- The tokens from a place on, and the fault after them; a token that may begin a key before the
fault is not reached. -/
def tokensFrom (s : Scanner) : Nat → List Token × Option Refusal
  | 0 => (s.tokens.toList, some .malformed)
  | fuel + 1 =>
    match nextToken.run s with
    | .error e s => (s.tokens.toList.take s.ready, some e)
    | .ok true s => tokensFrom s fuel
    | .ok false s => (s.tokens.toList, none)

end Scan

/-- The tokens of a document, and the fault after them if there is one. -/
def tokens (source : Source) : List Token × Option Refusal :=
  let source := source.unmarked
  Scan.tokensFrom { rest := source.text, fault := source.fault } (2 * source.text.length + 2)

end SnippetRunner.Document.Yaml
