import SnippetRunner.Snippet.Tree
import SnippetRunner.Text.CodeRanges
import SnippetRunner.Text.Name

/-!
# Text literals

What a string token stands for: its prefix, its quotes, the escapes in its body, and for a text
with embedded values the pieces between the braces.
-/

namespace SnippetRunner.Snippet

/-- A string token taken apart. -/
structure StringParts where
  raw : Bool
  bytes : Bool
  joined : Bool
  /-- How many characters stand before the body. -/
  start : Nat
  body : List Char

/-- Takes a string token apart. -/
def StringParts.ofText (text : String) : StringParts :=
  let cs := text.toList
  let marks := (cs.takeWhile fun c => c != '\'' && c != '"').map Char.toLower
  let rest := cs.drop marks.length
  let size := match rest with
    | a :: b :: c :: _ => if a == b && b == c && 6 ≤ rest.length then 3 else 1
    | _ => 1
  { raw := marks.contains 'r', bytes := marks.contains 'b', joined := marks.contains 'f'
    start := marks.length + size
    body := (rest.drop size).take (rest.length - 2 * size) }

/-- The characters that one letter after a backslash stands for. -/
def simpleEscape? (c : Char) : Option Char :=
  if c == '\\' || c == '\'' || c == '"' then some c
  else if c == 'a' then some '\x07'
  else if c == 'b' then some '\x08'
  else if c == 'f' then some '\x0c'
  else if c == 'n' then some '\n'
  else if c == 'r' then some '\r'
  else if c == 't' then some '\t'
  else if c == 'v' then some '\x0b'
  else none

/-- A digit of an octal escape. -/
def isOctal (c : Char) : Bool := '0' ≤ c && c ≤ '7'

/-- The value of octal digits. -/
def octalValue (cs : List Char) : Nat := cs.foldl (fun n c => 8 * n + (c.toNat - '0'.toNat)) 0

/-- How wide a character is in the form whose positions escape errors count. -/
def escapeWidth (c : Char) : Nat := if c.toNat < 128 then 1 else 10

/-- Reads the digits of a numeric escape of the given length: the character, or how many digits
there were. -/
def hexEscape (length : Nat) (cs : List Char) : Except Nat (Char × List Char) :=
  let digits := (cs.take length).takeWhile fun c => (Text.hexDigit? c).isSome
  if digits.length < length then .error digits.length
  else
    let code := Text.hexValue digits
    if 0x10ffff < code then .error length else .ok (Text.charOf code, cs.drop length)

/-- An escape that stands for nothing: the positions of its first and last characters, and why. -/
structure EscapeFault where
  first : Nat
  last : Nat
  reason : String
  deriving Repr, DecidableEq

/-- The complaint about an escape. -/
def EscapeFault.complaint (f : EscapeFault) : String :=
  let place :=
    if f.first = f.last then s!"byte 0x5c in position {f.first}"
    else s!"bytes in position {f.first}-{f.last}"
  s!"(unicode error) 'unicodeescape' codec can't decode {place}: {f.reason}"

/-- How many positions some characters take. -/
def escapeWidths (cs : List Char) : Nat := cs.foldl (fun n c => n + escapeWidth c) 0

/-- The character that is given by its name after `\N`, the positions that the name takes, and the
characters after it. -/
def namedEscape (position : Nat) (cs : List Char) : Except EscapeFault (Char × Nat × List Char) :=
  let malformed (last : Nat) : EscapeFault := ⟨position, last, "malformed \\N character escape"⟩
  match cs with
  | '\x7b' :: rest =>
    let name := rest.takeWhile (· != '\x7d')
    let width := escapeWidths name
    if name.isEmpty || name.length = rest.length then .error (malformed (position + 2 + width))
    else match Text.named? (String.ofList name) with
      | some c => .ok (c, width + 2, rest.drop (name.length + 1))
      | none => .error ⟨position, position + 3 + width, "unknown Unicode character name"⟩
  | _ => .error (malformed (position + 1))

/-- Resolves the escapes of a text literal; `position` counts the part before. -/
def unescape (fuel : Nat) (position : Nat) (cs : List Char) : Except EscapeFault (List Char) :=
  match fuel with
  | 0 => .ok []
  | fuel + 1 =>
    match cs with
    | [] => .ok []
    | '\\' :: '\n' :: rest => unescape fuel (position + 2) rest
    | '\\' :: c :: rest =>
      let numeric (length : Nat) (name : String) :=
        match hexEscape length rest with
        | .ok (c, after) => (unescape fuel (position + 2 + length) after).map (c :: ·)
        | .error n =>
          let reason :=
            if n = length then "illegal Unicode character" else s!"truncated {name} escape"
          .error ⟨position, position + 1 + n, reason⟩
      match simpleEscape? c with
      | some plain => (unescape fuel (position + 2) rest).map (plain :: ·)
      | none =>
        if c == 'x' then numeric 2 "\\xXX"
        else if c == 'u' then numeric 4 "\\uXXXX"
        else if c == 'U' then numeric 8 "\\UXXXXXXXX"
        else if c == 'N' then
          match namedEscape position rest with
          | .ok (c, width, after) => (unescape fuel (position + 2 + width) after).map (c :: ·)
          | .error fault => .error fault
        else if isOctal c then
          let digits := ((c :: rest).take 3).takeWhile isOctal
          (unescape fuel (position + 1 + digits.length) ((c :: rest).drop digits.length)).map
            (Char.ofNat (octalValue digits) :: ·)
        else
          (unescape fuel (position + 1 + escapeWidth c) rest).map fun cs => '\\' :: c :: cs
    | c :: rest => (unescape fuel (position + escapeWidth c) rest).map (c :: ·)

/-- The text of a literal's body. -/
def literalText (raw : Bool) (body : List Char) : Except String String :=
  if raw then .ok (String.ofList body)
  else ((unescape (body.length + 1) 0 body).map String.ofList).mapError EscapeFault.complaint

/-- Resolves the escapes of a byte string; numbers have two digits, and names none. -/
def unescapeBytes (fuel : Nat) (position : Nat) (cs : List Char) : Except String (List Char) :=
  match fuel with
  | 0 => .ok []
  | fuel + 1 =>
    match cs with
    | [] => .ok []
    | '\\' :: '\n' :: rest => unescapeBytes fuel (position + 2) rest
    | '\\' :: c :: rest =>
      match simpleEscape? c with
      | some plain => (unescapeBytes fuel (position + 2) rest).map (plain :: ·)
      | none =>
        if c == 'x' then
          match hexEscape 2 rest with
          | .ok (c, after) => (unescapeBytes fuel (position + 4) after).map (c :: ·)
          | .error _ => .error s!"(value error) invalid \\x escape at position {position}"
        else if isOctal c then
          let digits := ((c :: rest).take 3).takeWhile isOctal
          (unescapeBytes fuel (position + 1 + digits.length)
            ((c :: rest).drop digits.length)).map (Char.ofNat (octalValue digits % 256) :: ·)
        else (unescapeBytes fuel (position + 2) rest).map fun cs => '\\' :: c :: cs
    | c :: rest => (unescapeBytes fuel (position + 1) rest).map (c :: ·)

/-- The bytes of a literal's body. -/
def literalBytes (raw : Bool) (body : List Char) : Except String (List UInt8) :=
  let cs := if raw then .ok body else unescapeBytes (body.length + 1) 0 body
  cs.map fun cs => cs.map fun c => c.toNat.toUInt8

/-! ## Embedded values -/

/-- Scans an embedded expression up to the character that ends it: the characters of it and the
rest. `nesting` holds the open brackets, innermost first. -/
def spanEmbedded (fuel : Nat) (nesting : List Char) (quote : Option (Char × Nat))
    (seen : List Char) (cs : List Char) : Except String (List Char × List Char) :=
  match fuel with
  | 0 => .error "f-string: expecting '\x7d'"
  | fuel + 1 =>
    match cs with
    | [] =>
      if quote.isSome then .error "f-string: unterminated string"
      else match nesting with
        | open_ :: _ => .error s!"f-string: unmatched '{open_}'"
        | [] => .ok (seen.reverse, [])
    | c :: rest =>
      if c == '\\' then .error "f-string expression part cannot include a backslash"
      else match quote with
        | some (q, size) =>
          if c == q then
            if size = 3 then
              match rest with
              | a :: b :: more =>
                if a == q && b == q then
                  spanEmbedded fuel nesting none (q :: q :: q :: seen) more
                else spanEmbedded fuel nesting quote (c :: seen) rest
              | _ => spanEmbedded fuel nesting quote (c :: seen) rest
            else spanEmbedded fuel nesting none (c :: seen) rest
          else spanEmbedded fuel nesting quote (c :: seen) rest
        | none =>
          if c == '\'' || c == '"' then
            match rest with
            | a :: b :: more =>
              if a == c && b == c then
                spanEmbedded fuel nesting (some (c, 3)) (c :: c :: c :: seen) more
              else spanEmbedded fuel nesting (some (c, 1)) (c :: seen) rest
            | _ => spanEmbedded fuel nesting (some (c, 1)) (c :: seen) rest
          else if c == '[' || c == '\x7b' || c == '(' then
            spanEmbedded fuel (c :: nesting) none (c :: seen) rest
          else if c == '#' then .error "f-string expression part cannot include '#'"
          else if nesting.isEmpty && (c == '!' || c == ':' || c == '\x7d' || c == '=' || c == '<'
              || c == '>') then
            match rest with
            | d :: more =>
              if d == '=' && (c == '!' || c == '=' || c == '<' || c == '>') then
                spanEmbedded fuel nesting none (d :: c :: seen) more
              else if c == '<' || c == '>' then spanEmbedded fuel nesting none (c :: seen) rest
              else .ok (seen.reverse, cs)
            | [] =>
              if c == '<' || c == '>' then spanEmbedded fuel nesting none (c :: seen) rest
              else .ok (seen.reverse, cs)
          else if c == ']' || c == '\x7d' || c == ')' then
            match nesting with
            | [] => .error s!"f-string: unmatched '{c}'"
            | open_ :: outer =>
              let fits := (open_ == '(' && c == ')') || (open_ == '[' && c == ']')
                || (open_ == '\x7b' && c == '\x7d')
              if fits then spanEmbedded fuel outer none (c :: seen) rest
              else .error
                s!"f-string: closing parenthesis '{c}' does not match opening parenthesis '{open_}'"
          else spanEmbedded fuel nesting none (c :: seen) rest

end SnippetRunner.Snippet
