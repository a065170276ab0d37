import SnippetRunner.Number.Dyadic

/-!
# Division and roots

Quotients of integers as floats, and for floats the quotient toward the lower side with a
remainder that has the divisor's sign. Square roots of natural numbers, and the length of a vector
of floats, rounded once.
-/

namespace SnippetRunner.Number

/-- The number of factors of two in a natural number, at most `fuel` of them, and the rest. -/
def oddPart (m : Nat) (q : Int) : Nat → Nat × Int
  | 0 => (m, q)
  | fuel + 1 => if m % 2 = 0 ∧ m ≠ 0 then oddPart (m / 2) (q + 1) fuel else (m, q)

/-- The float of `± m * 2 ^ q`, for a value that a float can hold. -/
def floatOfParts (negative : Bool) (m : Nat) (q : Int) : Float :=
  let (odd, q) := oddPart m q (m.log2 + 1)
  let x := (Float.ofNat odd).scaleB q
  if negative then -x else x

/-- The quotient of two integers as a float, the divisor not zero; none when it is infinite. Both
are cut to a quotient of at least 66 binary digits whose last one tells whether the cut was
exact, so that one rounding is left. -/
def quotient? (a b : Int) : Option Float :=
  let negative : Bool := decide (a < 0) != decide (b < 0)
  let (num, den) := (a.natAbs, b.natAbs)
  if num = 0 then some 0.0
  else
    let shift : Int := 66 + den.log2 - num.log2
    let (num, den) :=
      if 0 ≤ shift then (num * twoTo shift.toNat, den) else (num, den * twoTo (-shift).toNat)
    let floor := num / den
    let sticky := if num % den = 0 then floor else floor ||| 1
    let x := (Float.ofNat sticky).scaleB (-shift)
    if x.isInf then none else some (if negative then -x else x)

/-- The remainder of two floats with the sign of the first one, exactly. -/
def remainder (x y : Float) : Float :=
  match Dyadic.ofFloat x, Dyadic.ofFloat y with
  | .finite negative m q, .finite _ n r =>
    if n = 0 then 0.0 / 0.0
    else
      let least := min q r
      let a := m * twoTo (q - least).toNat
      let b := n * twoTo (r - least).toNat
      floatOfParts negative (a % b) least
  | .finite _ _ _, .infinite _ => x
  | _, _ => 0.0 / 0.0

/-- A zero with the sign of a float. -/
def signedZero (x : Float) : Float :=
  match Dyadic.ofFloat x with
  | .finite true _ _ => -0.0
  | .infinite true => -0.0
  | _ => 0.0

/-- The quotient toward the lower side and the remainder with the divisor's sign; the divisor is
not zero. -/
def floorDivide (x y : Float) : Float × Float :=
  let rest := remainder x y
  let quotient := (x - rest) / y
  let (quotient, rest) :=
    if rest == 0.0 then (quotient, signedZero y)
    else if decide (y < 0.0) != decide (rest < 0.0) then (quotient - 1.0, rest + y)
    else (quotient, rest)
  if quotient == 0.0 then (signedZero (x / y), rest)
  else
    let whole := quotient.floor
    (if 0.5 < quotient - whole then whole + 1.0 else whole, rest)

/-- Newton's steps from above towards the root of a number; `fuel` bounds how many there are. -/
def rootFrom (n : Nat) : Nat → Nat → Nat
  | 0, r => r
  | fuel + 1, r =>
    let next := (r + n / r) / 2
    if next < r then rootFrom n fuel next else r

/-- The greatest number whose square is not above a number. -/
def natRoot (n : Nat) : Nat :=
  if n = 0 then 0 else rootFrom n (n.log2 + 10) (twoTo (n.log2 / 2 + 1))

/-- The float nearest to `m * 2 ^ q`. -/
def nearest? (m : Nat) (q : Int) : Option Float :=
  let (num, den) := quotientOf m q
  quotient? num den

/-- The float nearest to the root of `m * 4 ^ q`: the root is taken with many more digits than a
float has, and one more tells whether there was a rest. -/
def nearestRoot? (m : Nat) (q : Int) : Option Float :=
  if m = 0 then some 0.0
  else
    let k := (130 - m.log2) / 2
    let scaled := m * twoTo (2 * k)
    let r := natRoot scaled
    let rest := if r * r = scaled then 0 else 1
    nearest? (2 * r + rest) (q - k - 1)

/-- The length of a vector. -/
def length? (xs : List Float) : Option Float :=
  if xs.any Float.isInf then some (1.0 / 0.0)
  else if xs.any Float.isNaN then some (0.0 / 0.0)
  else
    let parts := xs.map fun x =>
      match Dyadic.ofFloat x with
      | .finite _ m q => (m, q)
      | _ => (0, 0)
    let least := (parts.map (·.2)).foldl min 0
    let sum := parts.foldl (fun sum (m, q) => sum + m * m * twoTo (2 * (q - least).toNat)) 0
    nearestRoot? sum least

end SnippetRunner.Number
