import SnippetRunner.Number.Division
import SnippetRunner.Number.Reading

/-!
# Complex numbers

Complex numbers as pairs of floats, and what the operators do with them.
-/

namespace SnippetRunner.Number

/-- A complex number. -/
structure Complex where
  re : Float
  im : Float

namespace Complex

/-- The number one. -/
def one : Complex := ⟨1.0, 0.0⟩

/-- Whether a number is zero. -/
def isZero (a : Complex) : Bool := a.re == 0.0 && a.im == 0.0

/-- The sum of two numbers. -/
def add (a b : Complex) : Complex := ⟨a.re + b.re, a.im + b.im⟩

/-- The difference of two numbers. -/
def sub (a b : Complex) : Complex := ⟨a.re - b.re, a.im - b.im⟩

/-- The product of two numbers. -/
def mul (a b : Complex) : Complex :=
  ⟨a.re * b.re - a.im * b.im, a.re * b.im + a.im * b.re⟩

/-- The quotient of two numbers, unless the second one is zero. Both are divided by the greater
part of the second one first. -/
def div? (a b : Complex) : Option Complex :=
  let (re, im) := (b.re.abs, b.im.abs)
  if im ≤ re then
    if re == 0.0 then none
    else
      let ratio := b.im / b.re
      let denominator := b.re + b.im * ratio
      some ⟨(a.re + a.im * ratio) / denominator, (a.im - a.re * ratio) / denominator⟩
  else if re ≤ im then
    let ratio := b.re / b.im
    let denominator := b.re * ratio + b.im
    some ⟨(a.re * ratio + a.im) / denominator, (a.im * ratio - a.re) / denominator⟩
  else some ⟨0.0 / 0.0, 0.0 / 0.0⟩

/-- A power with a natural exponent, by squaring; `fuel` bounds the digits of the exponent. -/
def powNat (n : Nat) : Nat → Complex → Complex → Complex
  | 0, _, r => r
  | fuel + 1, p, r =>
    if n = 0 then r
    else powNat (n / 2) fuel (mul p p) (if n % 2 = 1 then mul r p else r)

/-- The length of a number, unless it is too large. -/
def length? (a : Complex) : Option Float := Number.length? [a.re, a.im]

/-- A power by lengths and angles, unless zero has no such power. -/
def powAngle? (a b : Complex) : Option Complex :=
  if b.isZero then some one
  else if a.isZero then
    if b.im != 0.0 || b.re < 0.0 then none else some ⟨0.0, 0.0⟩
  else
    let length := (a.length?).getD (1.0 / 0.0)
    let angle := a.im.atan2 a.re
    let (size, phase) :=
      if b.im != 0.0 then
        (length.pow b.re * (-angle * b.im).exp, angle * b.re + b.im * length.log)
      else (length.pow b.re, angle * b.re)
    some ⟨size * phase.cos, size * phase.sin⟩

/-- A power, unless zero has no such power. Small whole exponents are worked out by squaring. -/
def pow? (a b : Complex) : Option Complex :=
  if b.im == 0.0 && b.re == b.re.floor && b.re.abs ≤ 100.0 then
    match truncate? b.re with
    | some n =>
      let power := powNat n.natAbs 10 a one
      if 0 < n then some power else one.div? power
    | none => powAngle? a b
  else powAngle? a b

/-! ## Reading -/

/-- The place of the sign between the two parts, if characters have one: the last sign that does
not stand at their start or after the mark of an exponent. -/
def innerSign? (cs : List Char) : Option Nat :=
  let places := (cs.zip (cs.drop 1)).zipIdx.filterMap fun ((before, c), i) =>
    if (c == '+' || c == '-') && before != 'e' && before != 'E' then some (i + 1) else none
  places.getLast?

/-- The imaginary part that characters before its mark write; a sign alone stands for one. -/
def readImaginary? (cs : List Char) : Option Float :=
  match cs with
  | [] | ['+'] => some 1.0
  | ['-'] => some (-1.0)
  | _ => readBareFloat? cs

/-- Reads a complex number without blanks and underscores. -/
def readBare? (cs : List Char) : Option Complex :=
  match cs.getLast?.map Char.toLower with
  | some 'j' =>
    let body := cs.dropLast
    match innerSign? body with
    | some i => do return ⟨← readBareFloat? (body.take i), ← readImaginary? (body.drop i)⟩
    | none => (readImaginary? body).map fun x => ⟨0.0, x⟩
  | _ => (readBareFloat? cs).map fun x => ⟨x, 0.0⟩

/-- Reads a complex number, which may stand in parentheses. -/
def read? (s : String) : Option Complex := do
  let cs := trimmed s
  let cs := match cs, cs.getLast? with
    | '(' :: rest, some ')' => trimmed (String.ofList rest.dropLast)
    | _, _ => cs
  readBare? (← withoutUnderscores? none cs)

end Complex

end SnippetRunner.Number
