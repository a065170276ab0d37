import SnippetRunner.Number.Division
import SnippetRunner.Text.Blank
import SnippetRunner.Text.Quoted

/-!
# Floats in hexadecimal digits

A float is written as a fraction of thirteen hexadecimal digits with a power of two, which loses
nothing. What is read may have any number of digits, and is rounded once.
-/

namespace SnippetRunner.Number

/-- A float in hexadecimal digits. -/
def hexText (x : Float) : String :=
  let sign := if isNegative x then "-" else ""
  match Dyadic.ofFloat x with
  | .nan => "nan"
  | .infinite _ => sign ++ "inf"
  | .finite _ m q =>
    if m = 0 then sign ++ "0x0.0p+0"
    else
      let exponent := q + 52
      let mark := if exponent < 0 then "" else "+"
      sign ++ s!"0x{m / twoTo 52}.{Text.hexPadded 13 (m % twoTo 52)}p{mark}{exponent}"

/-- Why hexadecimal digits give no float. -/
inductive HexFault where
  | malformed
  | tooLarge
  deriving Repr, DecidableEq

/-- What is said about hexadecimal digits that give no float. -/
def HexFault.message : HexFault → String
  | .malformed => "invalid hexadecimal floating-point string"
  | .tooLarge => "hexadecimal value too large to represent as a float"

/-- The hexadecimal digits that characters begin with, as numbers, and the rest. -/
def spanHex : List Char → List Nat × List Char
  | [] => ([], [])
  | c :: rest =>
    match Text.hexDigit? c with
    | some d =>
      let (digits, rest) := spanHex rest
      (d :: digits, rest)
    | none => ([], c :: rest)

/-- The power of two behind hexadecimal digits. -/
def readPower : List Char → Option Int
  | [] => some 0
  | c :: rest =>
    if c == 'p' || c == 'P' then
      let (negative, digits) := match rest with
        | '-' :: digits => (true, digits)
        | '+' :: digits => (false, digits)
        | digits => (false, digits)
      if digits.isEmpty || ! digits.all Char.isDigit then none
      else some (signed negative ((String.ofList digits).toNat?.getD 0))
    else none

/-- The size of the float that characters write. -/
def readHexSize (cs : List Char) : Except HexFault Float :=
  let word := (String.ofList cs).toLower
  if word == "inf" || word == "infinity" then .ok (1.0 / 0.0)
  else if word == "nan" then .ok (0.0 / 0.0)
  else
    let cs := match cs with
      | '0' :: 'x' :: rest | '0' :: 'X' :: rest => rest
      | rest => rest
    let (whole, rest) := spanHex cs
    let (fraction, rest) := match rest with
      | '.' :: rest => spanHex rest
      | rest => ([], rest)
    if whole.isEmpty && fraction.isEmpty then .error .malformed
    else match readPower rest with
      | none => .error .malformed
      | some power =>
        let m := (whole ++ fraction).foldl (fun n d => 16 * n + d) 0
        let q := power - 4 * fraction.length
        if m = 0 then .ok 0.0
        else if 2000 < (m.log2 : Int) + q then .error .tooLarge
        else if (m.log2 : Int) + q < -2000 then .ok 0.0
        else match nearest? m q with
          | some x => .ok x
          | none => .error .tooLarge

/-- The float that a text writes in hexadecimal digits. -/
def readHexFloat (s : String) : Except HexFault Float :=
  match (Text.stripWhere Text.isAsciiBlank s).toList with
  | '-' :: rest => (readHexSize rest).map (-·)
  | '+' :: rest => readHexSize rest
  | cs => readHexSize cs

end SnippetRunner.Number
