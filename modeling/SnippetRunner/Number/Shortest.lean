import SnippetRunner.Number.Dyadic

/-!
# Decimal texts of a float

A float is written with the fewest decimal digits that read back as the same float, and among
those with the digits nearest to it. For each number of digits the two neighbours of the value
on that decimal grid are tested against the interval of reals that round to it; the first grid
with a neighbour inside wins. With a chosen number of significant digits or of decimal places it
is rounded from its exact value, halves to even.
-/

namespace SnippetRunner.Number

/-- The least `k` between `guess` and `guess + fuel` with `num / den < 10 ^ k`. -/
def decimalPlace (num den : Nat) (guess : Int) : Nat → Int
  | 0 => guess
  | fuel + 1 =>
    let below :=
      if 0 ≤ guess then num < den * tenTo guess.toNat else num * tenTo (-guess).toNat < den
    if below then guess else decimalPlace num den (guess + 1) fuel

/-- The exponent `k` of the leading decimal digit: `10 ^ (k - 1) ≤ m * 2 ^ q < 10 ^ k`. -/
def leadingPlace (m : Nat) (q : Int) : Int :=
  let (num, den) := quotientOf m q
  let binary : Int := (m.log2 : Int) + q
  decimalPlace num den ((binary * 30103).fdiv 100000 - 1) 4

/-- `num / den` in units of `10 ^ place`, as a quotient. -/
def inUnits (num den : Nat) (place : Int) : Nat × Nat :=
  if 0 ≤ place then (num, den * tenTo place.toNat) else (num * tenTo (-place).toNat, den)

/-- The grid point of `10 ^ place` nearest to `m * 2 ^ q` inside the interval that rounds to
it, if there is one. -/
def gridPoint? (m : Nat) (q place : Int) : Option Nat :=
  -- all four quantities in quarters of the last binary place
  let (quarter, den₀) := quotientOf 1 (q - 2)
  let narrow := m == twoTo 52 && q != -1074
  let low := (4 * m - (if narrow then 1 else 2)) * quarter
  let high := (4 * m + 2) * quarter
  let (value, den) := inUnits (4 * m * quarter) den₀ place
  let scale := if 0 ≤ place then 1 else tenTo (-place).toNat
  let inside (c : Nat) :=
    if m % 2 = 0 then low * scale ≤ c * den ∧ c * den ≤ high * scale
    else low * scale < c * den ∧ c * den < high * scale
  let floor := value / den
  let twice := 2 * (value % den)
  let near := if twice < den ∨ (twice = den ∧ floor % 2 = 0) then floor else floor + 1
  let far := if near = floor then floor + 1 else floor
  if inside near then some near else if inside far then some far else none

/-- The fewest digits for `m * 2 ^ q`, tried from `n` of them up to `n + fuel`: the digits as a
number and the decimal exponent of the last one. -/
def fewestDigits (m : Nat) (q leading : Int) (n : Nat) : Nat → Nat × Int
  | 0 => (m, 0)
  | fuel + 1 =>
    match gridPoint? m q (leading - n) with
    | some digits => (digits, leading - n)
    | none => fewestDigits m q leading (n + 1) fuel

/-- The decimal digits of a number without its trailing zeros, which the exponent takes up. -/
def dropZeros (digits : Nat) (exponent : Int) : Nat → Nat × Int
  | 0 => (digits, exponent)
  | fuel + 1 =>
    if digits % 10 = 0 ∧ digits ≠ 0 then dropZeros (digits / 10) (exponent + 1) fuel
    else (digits, exponent)

/-- The shortest digits of a positive finite float and the decimal exponent of the last one. -/
def shortestDigits (m : Nat) (q : Int) : Nat × Int :=
  let (digits, exponent) := fewestDigits m q (leadingPlace m q) 1 17
  dropZeros digits exponent 20

/-- The decisions of a decimal format. -/
structure DecimalStyle where
  /-- Least exponent of the leading digit that is written positionally. -/
  leastPositional : Int
  /-- First exponent of the leading digit that is not. -/
  pastPositional : Int
  /-- Whether a positional integer ends in `.0`. -/
  keepPoint : Bool

/-- An exponent with its sign and at least two digits. -/
def exponentText (e : Int) : String :=
  let digits := toString e.natAbs
  "e" ++ (if e < 0 then "-" else "+") ++ (if digits.length < 2 then "0" ++ digits else digits)

/-- Zeros as text. -/
def zeros (n : Nat) : String := String.ofList (List.replicate n '0')

/-- Digits with the decimal exponent of the last one, as text in a style. -/
def decimalText (style : DecimalStyle) (digits : Nat) (exponent : Int) : String :=
  let text := toString digits
  let leading := exponent + text.length - 1
  if style.leastPositional ≤ leading ∧ leading < style.pastPositional then
    if 0 ≤ exponent then
      text ++ zeros exponent.toNat ++ (if style.keepPoint then ".0" else "")
    else if leading < 0 then
      "0." ++ zeros (-leading - 1).toNat ++ text
    else
      let cut := (leading + 1).toNat
      String.ofList (text.toList.take cut) ++ "." ++ String.ofList (text.toList.drop cut)
  else
    let mantissa := match text.toList with
      | [] => ""
      | [d] => d.toString
      | d :: more => d.toString ++ "." ++ String.ofList more
    mantissa ++ exponentText leading

/-- Floats are positional from one ten-thousandth to below ten to the sixteenth, and always
show a point or an exponent. -/
def plainStyle : DecimalStyle := ⟨-4, 16, true⟩

/-- The shortest text of a float. -/
def floatText (x : Float) : String :=
  match Dyadic.ofFloat x with
  | .nan => "nan"
  | .infinite negative => if negative then "-inf" else "inf"
  | .finite negative 0 _ => if negative then "-0.0" else "0.0"
  | .finite negative m q =>
    let (digits, exponent) := shortestDigits m q
    (if negative then "-" else "") ++ decimalText plainStyle digits exponent

/-- The `n` leading digits of `m * 2 ^ q`, rounded, and the decimal exponent of the last one. -/
def significantDigits (n m : Nat) (q : Int) : Nat × Int :=
  let (num, den) := quotientOf m q
  let place := leadingPlace m q - n
  let (a, b) := inUnits num den place
  let digits := roundQuotient .toEven a b
  if digits = tenTo n then (tenTo (n - 1), place + 1) else (digits, place)

/-- Six significant digits without trailing zeros; positional from one ten-thousandth to below
the first number with more digits than that. -/
def generalText (x : Float) : String :=
  match Dyadic.ofFloat x with
  | .nan => "nan"
  | .infinite negative => if negative then "-inf" else "inf"
  | .finite negative 0 _ => if negative then "-0" else "0"
  | .finite negative m q =>
    let (digits, place) := significantDigits 6 m q
    let (short, exponent) := dropZeros digits place 20
    (if negative then "-" else "") ++ decimalText ⟨-4, 6, false⟩ short exponent

/-- A float with the given number of decimal places. -/
def fixedText (places : Nat) (x : Float) : String :=
  match Dyadic.ofFloat x with
  | .nan => "nan"
  | .infinite negative => if negative then "-inf" else "inf"
  | .finite negative m q =>
    let (num, den) := quotientOf m q
    let digits := toString (roundQuotient .toEven (num * tenTo places) den)
    let padded := zeros (places + 1 - digits.length) ++ digits
    let cut := padded.length - places
    let whole := String.ofList (padded.toList.take cut)
    let rest := String.ofList (padded.toList.drop cut)
    (if negative then "-" else "") ++ whole ++ (if places = 0 then "" else "." ++ rest)

end SnippetRunner.Number
