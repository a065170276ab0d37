import SnippetRunner.Text.Half
import SnippetRunner.Text.Utf8

/-!
# Encodings

The ways to write a text as bytes: in units of one, two or four bytes, the more significant byte
first or last. Which way a text is written shows from its mark, or from where zeros stand in its
first bytes if the text begins with two plain characters.

Text may also stand for bytes: in base 64 each character of the alphabet stands for six bits, so
that four of them make three bytes. Characters outside the alphabet are passed over. Reading stops
at the padding that completes a group of four; a group that is neither full nor padded is refused.
-/

namespace SnippetRunner.Text

/-- A way to write a text as bytes. -/
inductive Encoding where
  | utf8
  | utf16 (bigFirst : Bool)
  | utf32 (bigFirst : Bool)
  deriving Repr, DecidableEq

/-- The number that bytes write. -/
def numberOf (bigFirst : Bool) (bytes : List UInt8) : Nat :=
  (if bigFirst then bytes else bytes.reverse).foldl (fun n b => 256 * n + b.toNat) 0

/-- Bytes in units of two; none if one is left over. -/
def unitsOfTwo? (bigFirst : Bool) : List UInt8 → Option (List Nat)
  | [] => some []
  | [_] => none
  | a :: b :: rest => (unitsOfTwo? bigFirst rest).map (numberOf bigFirst [a, b] :: ·)

/-- Bytes in units of four; none if some are left over. -/
def unitsOfFour? (bigFirst : Bool) : List UInt8 → Option (List Nat)
  | [] => some []
  | a :: b :: c :: d :: rest =>
    (unitsOfFour? bigFirst rest).map (numberOf bigFirst [a, b, c, d] :: ·)
  | _ => none

/-- The characters of units of two bytes, some of which are pairs. -/
def joinPairs : List Nat → List Char
  | [] => []
  | [unit] => [charOf unit]
  | first :: second :: rest =>
    if 0xd800 ≤ first ∧ first ≤ 0xdbff ∧ 0xdc00 ≤ second ∧ second ≤ 0xdfff then
      Char.ofNat (0x10000 + (first - 0xd800) * 0x400 + (second - 0xdc00)) :: joinPairs rest
    else charOf first :: joinPairs (second :: rest)

namespace Encoding

/-- The encoding of bytes, and the bytes after the mark of it. -/
def detect (bytes : List UInt8) : Encoding × List UInt8 :=
  match bytes with
  | 0 :: 0 :: 0xfe :: 0xff :: rest => (.utf32 true, rest)
  | 0xff :: 0xfe :: 0 :: 0 :: rest => (.utf32 false, rest)
  | 0xfe :: 0xff :: rest => (.utf16 true, rest)
  | 0xff :: 0xfe :: rest => (.utf16 false, rest)
  | 0xef :: 0xbb :: 0xbf :: rest => (.utf8, rest)
  | a :: b :: c :: d :: _ =>
    if a = 0 then (if b = 0 then .utf32 true else .utf16 true, bytes)
    else if b = 0 then (if c = 0 ∧ d = 0 then .utf32 false else .utf16 false, bytes)
    else (.utf8, bytes)
  | [a, b] =>
    if a = 0 then (.utf16 true, bytes)
    else if b = 0 then (.utf16 false, bytes)
    else (.utf8, bytes)
  | _ => (.utf8, bytes)

/-- The text that bytes write. -/
def decode? : Encoding → List UInt8 → Option String
  | .utf8, bytes => (decodeUtf8 bytes).toOption
  | .utf16 bigFirst, bytes =>
    (unitsOfTwo? bigFirst bytes).map fun units => String.ofList (joinPairs units)
  | .utf32 bigFirst, bytes => do
    let units ← unitsOfFour? bigFirst bytes
    if units.all (· ≤ 0x10ffff) then some (String.ofList (units.map charOf)) else none

end Encoding

/-- The six bits that a character stands for. -/
def sixBits? (c : Char) : Option Nat :=
  if c.isUpper then some (c.toNat - 'A'.toNat)
  else if c.isLower then some (c.toNat - 'a'.toNat + 26)
  else if c.isDigit then some (c.toNat - '0'.toNat + 52)
  else if c == '+' then some 62
  else if c == '/' then some 63
  else none

/-- The bytes of a text from inside a group on: `count` characters of the group have been read,
`held` are their bits that belong to no byte yet, and `pads` marks of padding have followed. -/
def bytesOfGroups (count held pads : Nat) : List Char → Option (List UInt8)
  | [] => if count = 0 then some [] else none
  | c :: rest =>
    if c == '=' then
      if count < 2 then bytesOfGroups count held pads rest
      else if 4 ≤ count + pads + 1 then some []
      else bytesOfGroups count held (pads + 1) rest
    else match sixBits? c with
      | none => bytesOfGroups count held pads rest
      | some bits =>
        match count with
        | 0 => bytesOfGroups 1 bits 0 rest
        | 1 => do return .ofNat (held * 4 + bits / 16) :: (← bytesOfGroups 2 (bits % 16) 0 rest)
        | 2 => do return .ofNat (held * 16 + bits / 4) :: (← bytesOfGroups 3 (bits % 4) 0 rest)
        | _ => do return .ofNat (held * 64 + bits) :: (← bytesOfGroups 0 0 0 rest)

/-- The bytes that a text of ASCII characters stands for. -/
def decodeBase64? (s : String) : Option (List UInt8) :=
  if s.toList.all (·.toNat < 128) then bytesOfGroups 0 0 0 s.toList else none

end SnippetRunner.Text
