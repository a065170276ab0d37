import SnippetRunner.Number.Decimal
import SnippetRunner.Number.Dyadic
import SnippetRunner.Text.Blank
import SnippetRunner.Text.CodeRanges
import SnippetRunner.Text.Quoted

/-!
# Numbers from text

Integers and floats as people type them: blanks around, a sign, digits of any script, single
underscores between digits, and for floats a point, an exponent, or the names of infinity and
of what is no number.
-/

namespace SnippetRunner.Number

open SnippetRunner.Text

/-- Digits of any script become the ASCII ones; other characters stay. -/
def asciiDigits (cs : List Char) : List Char :=
  cs.map fun c => match decimalValue? c with
    | some d => Char.ofNat ('0'.toNat + d)
    | none => c

/-- Digits with single underscores between them. `after` tells whether the character before was
a digit. -/
def plainDigits? (after : Bool) : List Char → Option (List Char)
  | [] => if after then some [] else none
  | c :: rest =>
    if c.isDigit then (plainDigits? true rest).map (c :: ·)
    else if c == '_' && after then
      match rest with
      | d :: _ => if d.isDigit then plainDigits? false rest else none
      | [] => none
    else none

/-- The number that decimal digits write. -/
def digitsValue (cs : List Char) : Nat := cs.foldl (fun n c => 10 * n + (c.toNat - '0'.toNat)) 0

/-- A sign and the rest. -/
def readSign : List Char → Bool × List Char
  | '-' :: rest => (true, rest)
  | '+' :: rest => (false, rest)
  | cs => (false, cs)

/-- Why a text is no integer. -/
inductive IntFault where
  | malformed
  | tooLong (digits : Nat)
  deriving Repr, DecidableEq

/-- The characters of a text that writes a number: blanks around them are left out. In a text that
is not all ASCII, more characters are blanks. -/
def trimmed (s : String) : List Char :=
  let blank := if s.toList.all (fun c => c.toNat < 128) then isAsciiBlank else isBlank
  asciiDigits (stripWhere blank s).toList

/-- Reads a decimal integer. -/
def readInt (s : String) : Except IntFault Int :=
  let (negative, body) := readSign (trimmed s)
  match plainDigits? false body with
  | none => .error .malformed
  | some digits =>
    if digitLimit < digits.length then .error (.tooLong digits.length)
    else .ok (signed negative (digitsValue digits))

/-- What is complained about a text that is no integer. -/
def IntFault.complaint (base : Nat) (text : String) : IntFault → String
  | .malformed => s!"invalid literal for int() with base {base}: {quoted text}"
  | .tooLong digits => lengthComplaint s!": value has {digits} digits"

/-- The value of a digit in bases up to 36. -/
def digitIn? (base : Nat) (c : Char) : Option Nat :=
  let d :=
    if c.isDigit then some (c.toNat - '0'.toNat)
    else if 'a' ≤ c.toLower ∧ c.toLower ≤ 'z' then some (c.toLower.toNat - 'a'.toNat + 10)
    else none
  d.filter (· < base)

/-- The base that a letter after a leading zero stands for. -/
def markedBase? (c : Char) : Option Nat :=
  match c with
  | 'b' | 'B' => some 2
  | 'o' | 'O' => some 8
  | 'x' | 'X' => some 16
  | _ => none

/-- Digits in a base, with single underscores between them. -/
def digitsIn? (base : Nat) : List Char → Option (List Nat)
  | [] => none
  | [c] => (digitIn? base c).map ([·])
  | c :: '_' :: rest => do return (← digitIn? base c) :: (← digitsIn? base rest)
  | c :: rest => do return (← digitIn? base c) :: (← digitsIn? base rest)

/-- Whether a base is a power of two, so that numbers in it are read at once. -/
def isBinaryBase (base : Nat) : Bool := [2, 4, 8, 16, 32].contains base

/-- Reads an integer in a base; in base zero its start names the base, and a number that does not
begin with a mark has no leading zeros. -/
def readInBase (base : Nat) (s : String) : Except IntFault Int :=
  let (negative, cs) := readSign (trimmed s)
  let marked : Option (Nat × List Char) := match cs with
    | '0' :: c :: rest =>
      match markedBase? c with
      | some b =>
        if base = b ∨ base = 0 then some (b, if rest.head? == some '_' then rest.drop 1 else rest)
        else none
      | none => none
    | _ => none
  let (actual, body) := marked.getD (if base = 0 then 10 else base, cs)
  match digitsIn? actual body with
  | none => .error .malformed
  | some ds =>
    if ! isBinaryBase actual && digitLimit < ds.length then .error (.tooLong ds.length)
    else
      let n := ds.foldl (fun n d => actual * n + d) 0
      if base = 0 ∧ marked.isNone ∧ ds.head? = some 0 ∧ n ≠ 0 then .error .malformed
      else .ok (signed negative n)

/-- Removes underscores that stand between two digits; none if one stands elsewhere. -/
def withoutUnderscores? (before : Option Char) : List Char → Option (List Char)
  | [] => some []
  | '_' :: rest =>
    if before.any Char.isDigit && rest.head?.any Char.isDigit then
      withoutUnderscores? none rest
    else none
  | c :: rest => (withoutUnderscores? (some c) rest).map (c :: ·)

/-- The float nearest to `digits * 10 ^ exponent`; the exponent is cut where every float is
already infinite or zero. -/
def scaled (digits : Nat) (exponent : Int) : Float :=
  if digits = 0 then 0.0
  else
    let size := ((toString digits).length : Int) + exponent
    if 400 < size then 1.0 / 0.0
    else if size < -400 then 0.0
    else if 0 ≤ exponent then Float.ofScientific (digits * tenTo exponent.toNat) false 0
    else Float.ofScientific digits true (-exponent).toNat

/-- Splits off the leading digits. -/
def spanDigits (cs : List Char) : List Char × List Char :=
  (cs.takeWhile Char.isDigit, cs.dropWhile Char.isDigit)

/-- Reads an unsigned decimal float: digits, a point, digits and an exponent. -/
def readDecimal? (cs : List Char) : Option Float :=
  let (whole, rest) := spanDigits cs
  let (fraction, rest) := match rest with
    | '.' :: more => spanDigits more
    | _ => ([], rest)
  if whole.isEmpty && fraction.isEmpty then none
  else
    let digits := digitsValue (whole ++ fraction)
    let shift : Int := fraction.length
    match rest with
    | [] => some (scaled digits (-shift))
    | e :: more =>
      if e == 'e' || e == 'E' then
        let (negative, exponent) := readSign more
        if ! exponent.isEmpty && exponent.all Char.isDigit then
          some (scaled digits (signed negative (digitsValue exponent) - shift))
        else none
      else none

/-- What is complained about a text that is no float. -/
def floatComplaint (text : String) : String := s!"could not convert string to float: {quoted text}"

/-- Reads a float without blanks and underscores: decimal, infinite, or no number. -/
def readBareFloat? (cs : List Char) : Option Float := do
  let (negative, body) := readSign cs
  let word := String.ofList (body.map Char.toLower)
  let magnitude ←
    if word == "inf" || word == "infinity" then some (1.0 / 0.0 : Float)
    else if word == "nan" then some (0.0 / 0.0 : Float)
    else readDecimal? body
  return if negative then -magnitude else magnitude

/-- Reads a float. -/
def readFloat? (s : String) : Option Float := do
  readBareFloat? (← withoutUnderscores? none (trimmed s))

end SnippetRunner.Number
