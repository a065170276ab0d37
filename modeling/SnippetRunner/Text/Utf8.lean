import SnippetRunner.Text.Quoted

/-!
# UTF-8

Text as bytes and back. Reading refuses a byte sequence at the first byte that cannot belong to
a character and says where and why.
-/

namespace SnippetRunner.Text

/-- Why a byte sequence is no text. -/
inductive Utf8Fault where
  | invalidStart
  | invalidContinuation
  | unexpectedEnd
  deriving Repr, DecidableEq

/-- The words for a fault. -/
def Utf8Fault.reason : Utf8Fault → String
  | .invalidStart => "invalid start byte"
  | .invalidContinuation => "invalid continuation byte"
  | .unexpectedEnd => "unexpected end of data"

/-- A refused byte sequence: the first byte, its position, and how many bytes are affected. -/
structure Utf8Error where
  byte : UInt8
  position : Nat
  length : Nat
  fault : Utf8Fault
  deriving Repr

/-- The message for a refused byte sequence. -/
def Utf8Error.message (e : Utf8Error) : String :=
  let place :=
    if e.length = 1 then s!"byte 0x{hexPadded 2 e.byte.toNat} in position {e.position}"
    else s!"bytes in position {e.position}-{e.position + e.length - 1}"
  s!"'utf-8' codec can't decode {place}: {e.fault.reason}"

/-- The number of continuation bytes after a start byte, the bounds of the first of them, and
the start byte's own bits. -/
def continuation? (b : Nat) : Option (Nat × Nat × Nat × Nat) :=
  if 0xc2 ≤ b ∧ b ≤ 0xdf then some (1, 0x80, 0xbf, b - 0xc0)
  else if b = 0xe0 then some (2, 0xa0, 0xbf, 0)
  else if b = 0xed then some (2, 0x80, 0x9f, 0xd)
  else if 0xe1 ≤ b ∧ b ≤ 0xef then some (2, 0x80, 0xbf, b - 0xe0)
  else if b = 0xf0 then some (3, 0x90, 0xbf, 0)
  else if b = 0xf4 then some (3, 0x80, 0x8f, 4)
  else if 0xf1 ≤ b ∧ b ≤ 0xf3 then some (3, 0x80, 0xbf, b - 0xf0)
  else none

/-- Reads `n` continuation bytes, the first between `lo` and `hi`: the code point, or the number
of bytes that were fine and what is wrong after them. -/
def continueChar : Nat → Nat → Nat → Nat → Nat → List UInt8 →
    Except (Nat × Utf8Fault) Nat
  | 0, _, _, code, _, _ => .ok code
  | _ + 1, _, _, _, good, [] => .error (good, .unexpectedEnd)
  | n + 1, lo, hi, code, good, b :: rest =>
    if lo ≤ b.toNat ∧ b.toNat ≤ hi then
      continueChar n 0x80 0xbf (code * 64 + (b.toNat - 0x80)) (good + 1) rest
    else .error (good, .invalidContinuation)

/-- Reads characters from position `pos` on; `skip` bytes belong to the character before. -/
def decodeFrom (pos skip : Nat) : List UInt8 → Except Utf8Error (List Char)
  | [] => .ok []
  | b :: rest =>
    match skip with
    | k + 1 => decodeFrom (pos + 1) k rest
    | 0 =>
      if b.toNat < 0x80 then (decodeFrom (pos + 1) 0 rest).map (Char.ofNat b.toNat :: ·)
      else match continuation? b.toNat with
        | none => .error ⟨b, pos, 1, .invalidStart⟩
        | some (n, lo, hi, code) =>
          match continueChar n lo hi code 1 rest with
          | .error (good, fault) => .error ⟨b, pos, good, fault⟩
          | .ok c => (decodeFrom (pos + 1) n rest).map (Char.ofNat c :: ·)

/-- The text that a byte sequence encodes. -/
def decodeUtf8 (bytes : List UInt8) : Except Utf8Error String :=
  (decodeFrom 0 0 bytes).map String.ofList

/-- A text as bytes. -/
def encodeUtf8 (s : String) : List UInt8 := s.toUTF8.toList

/-- What is said of a text that an encoding has no place for: the first of its characters that do
not fit, and why. -/
def unwritable? (encoding reason : String) (fits : Char → Bool) (s : String) : Option String :=
  let before := s.toList.takeWhile fits
  let bad := (s.toList.drop before.length).takeWhile fun c => ! fits c
  let start := before.length
  match bad with
  | [] => none
  | [c] => some (s!"'{encoding}' codec can't encode character '{numberEscape c}' in position "
    ++ s!"{start}: {reason}")
  | _ => some (s!"'{encoding}' codec can't encode characters in position "
    ++ s!"{start}-{start + bad.length - 1}: {reason}")

/-- What is said of a text that holds halves of pairs. -/
def halfComplaint? (s : String) : Option String :=
  if holdsHalf s then
    unwritable? "utf-8" "surrogates not allowed" (fun c => (halfOf? c).isNone) s
  else none

end SnippetRunner.Text
