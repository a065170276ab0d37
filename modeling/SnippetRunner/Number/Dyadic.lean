/-!
# Floats as exact numbers

A finite float is a natural number times a power of two, with a sign. All text and rounding of
floats works on this exact form. Powers of two and of ten, and of integers, have natural numbers
for exponents.
-/

namespace SnippetRunner.Number

/-- A power of two. -/
def twoTo (k : Nat) : Nat := Nat.pow 2 k

/-- A power of ten. -/
def tenTo (k : Nat) : Nat := Nat.pow 10 k

/-- A power of an integer: negative when the base is and the exponent is odd. -/
def intPower (base : Int) (k : Nat) : Int :=
  let size : Int := Nat.pow base.natAbs k
  if base < 0 ∧ k % 2 = 1 then -size else size

/-- A float taken apart: not a number, an infinity, or `± mantissa * 2 ^ exponent`. -/
inductive Dyadic where
  | nan
  | infinite (negative : Bool)
  | finite (negative : Bool) (mantissa : Nat) (exponent : Int)
  deriving Repr, DecidableEq

/-- The exact value of a float, read off its bits. -/
def Dyadic.ofFloat (x : Float) : Dyadic :=
  let bits := x.toBits.toNat
  let negative : Bool := bits / twoTo 63 == 1
  let biased : Nat := bits / twoTo 52 % 2048
  let fraction : Nat := bits % twoTo 52
  if biased = 2047 then
    if fraction = 0 then .infinite negative else .nan
  else if biased = 0 then .finite negative fraction (-1074)
  else .finite negative (fraction + twoTo 52) ((biased : Int) - 1075)

/-- `m * 2 ^ q` as a quotient of natural numbers. -/
def quotientOf (m : Nat) (q : Int) : Nat × Nat :=
  if 0 ≤ q then (m * twoTo q.toNat, 1) else (m, twoTo (-q).toNat)

/-- How a half is rounded. -/
inductive Tie where
  | toEven
  | away
  deriving Repr, DecidableEq

/-- A quotient rounded to the nearest natural number. -/
def roundQuotient (tie : Tie) (num den : Nat) : Nat :=
  let floor := num / den
  let twice := 2 * (num % den)
  if twice < den then floor
  else if den < twice then floor + 1
  else match tie with
    | .away => floor + 1
    | .toEven => if floor % 2 = 0 then floor else floor + 1

/-- A number with a sign. -/
def signed (negative : Bool) (n : Nat) : Int := if negative then -(n : Int) else n

/-- The nearest integer to a finite float, halves to the even neighbour. -/
def roundToInt? (x : Float) : Option Int :=
  match Dyadic.ofFloat x with
  | .finite negative m q =>
    let (num, den) := quotientOf m q
    some (signed negative (roundQuotient .toEven num den))
  | _ => none

/-- The integer next to a finite float on the side of zero. -/
def truncate? (x : Float) : Option Int :=
  match Dyadic.ofFloat x with
  | .finite negative m q =>
    let (num, den) := quotientOf m q
    some (signed negative (num / den))
  | _ => none

/-- The greatest integer not above a finite float. -/
def floor? (x : Float) : Option Int :=
  match Dyadic.ofFloat x with
  | .finite negative m q =>
    let (num, den) := quotientOf m q
    some ((signed negative num).fdiv den)
  | _ => none

/-- The least integer not below a finite float. -/
def ceiling? (x : Float) : Option Int := (floor? (-x)).map (-·)

/-- The order of an integer and a float, exactly; none against a value that is no number. -/
def compareInt (n : Int) (x : Float) : Option Ordering :=
  match Dyadic.ofFloat x with
  | .nan => none
  | .infinite negative => some (if negative then .gt else .lt)
  | .finite negative m q =>
    let (num, den) := quotientOf m q
    some (compare (n * den) (signed negative num))

/-- The float nearest to an integer; none when it would be infinite. -/
def ofInt? (n : Int) : Option Float :=
  let magnitude := Float.ofScientific n.natAbs false 0
  if magnitude.isInf then none
  else some (if n < 0 then -magnitude else magnitude)

/-- Whether a float has a minus sign, which zero can have as well. -/
def isNegative (x : Float) : Bool := x.toBits >>> 63 == 1

/-- Whether two floats have the same bits, apart from the many that are no number. -/
def sameFloat (x y : Float) : Bool := x.toBits == y.toBits

end SnippetRunner.Number
