import SnippetRunner.Evaluation.Conversion
import SnippetRunner.Evaluation.Operator

/-!
# Functions of numbers

Rounding, quotients with remainders, sizes, powers modulo a number, and digits in a base.
-/

namespace SnippetRunner.Evaluation

/-! ## Rounding -/

/-- A float rounded to decimal places, halves to even by its exact value; none if it becomes too
large. -/
def roundPlaces? (x : Float) (places : Int) : Option Float :=
  if 0 ≤ places then
    if 323 < places then some x
    else some ((Number.readFloat? (Number.fixedText places.toNat x)).getD x)
  else if places < -308 then some (0.0 * x)
  else
    let unit := Number.tenTo (-places).toNat
    match Number.Dyadic.ofFloat x with
    | .finite negative m q =>
      let (num, den) := Number.quotientOf m q
      let n := Number.roundQuotient .toEven num (den * unit) * unit
      if n = 0 && negative then some (-0.0) else Number.ofInt? (Number.signed negative n)
    | _ => some x

/-- An integer rounded to decimal places, halves to even. -/
def roundInt (n places : Int) : Native Int := do
  if 0 ≤ places then return n
  else if powerLimit < (-places).toNat then Native.endless
  else
    let unit := Number.tenTo (-places).toNat
    return Number.signed (n < 0) (Number.roundQuotient .toEven n.natAbs unit * unit)

/-- The complaint about a value that cannot be rounded. -/
def noRounding {α : Type} (v : Value) : Native α := do
  Native.typeError s!"type {(← Native.heap).typeName v} doesn't define __round__ method"

/-- A number rounded, where its class is not asked. -/
def roundCore (v places : Value) : Native Value := do
  let core := (← Native.heap).core v
  match core.numeric?, places with
  | some (.int n), .none => return .int n
  | some (.int n), p => return .int (← roundInt n (← intArgument p))
  | some (.float x), .none => return .int (← integral Number.roundToInt? x)
  | some (.float x), p =>
    let places ← intArgument p
    if ! x.isFinite then return core
    else match roundPlaces? x places with
      | some y => return .float y
      | none => Native.fail "OverflowError" "rounded value too large to represent"
  | none, _ => noRounding v

/-- A number rounded. -/
def roundOf (v places : Value) : Native Value := do
  match (← Native.heap).special? v "__round__", places with
  | some method, .none => askMethod v method []
  | some method, p => askMethod v method [p]
  | none, _ => roundCore v places

/-! ## Quotients and sizes -/

/-- The quotient and the remainder of two numbers; not implemented if they are none. -/
def divideCores (v w : Value) : Native Value := do
  match v.numeric?, w.numeric? with
  | some (.int a), some (.int b) =>
    if b = 0 then zeroDivision "integer division or modulo by zero"
    else return .tuple [.int (a.fdiv b), .int (a.fmod b)]
  | some a, some b =>
    let (x, y) := (← floatOfNumeric a, ← floatOfNumeric b)
    if y == 0.0 then zeroDivision "float divmod()"
    else
      let (quotient, rest) := Number.floorDivide x y
      return .tuple [.float quotient, .float rest]
  | _, _ => return .notImplemented

/-- The quotient and the remainder of two values. -/
def quotientAndRest (v w : Value) : Native Value := do
  let h ← Native.heap
  match ← askBoth "__divmod__" "__rdivmod__" (divideCores (h.core v) (h.core w)) v w with
  | .notImplemented =>
    Native.typeError
      s!"unsupported operand type(s) for divmod(): '{h.typeName v}' and '{h.typeName w}'"
  | answer => return answer

/-- The size of a number, if it is one. -/
def sizeCore? (v : Value) : Native (Option Value) := do
  match v, v.numeric? with
  | .complex re im, _ =>
    let finite := re.isFinite && im.isFinite
    match Number.Complex.length? ⟨re, im⟩ with
    | some x =>
      if finite && x.isInf then Native.fail "OverflowError" "absolute value too large"
      else return some (.float x)
    | none => Native.fail "OverflowError" "absolute value too large"
  | _, some (.int n) => return some (.int n.natAbs)
  | _, some (.float x) => return some (.float x.abs)
  | _, none => return none

/-- The size of a value. -/
def absoluteOf (v : Value) : Native Value := do
  let h ← Native.heap
  match h.special? v "__abs__" with
  | some method => askMethod v method []
  | none =>
    match ← sizeCore? (h.core v) with
    | some size => return size
    | none => Native.typeError s!"bad operand type for abs(): '{h.typeName v}'"

/-! ## Powers modulo a number -/

/-- A power modulo a number, by squaring, with the sign of the number. -/
def powMod (a : Int) (b : Nat) (n : Int) : Int :=
  (square (a.emod n).toNat b (b.log2 + 1) : Int).fmod n
where
  /-- A power modulo the number's size; `fuel` bounds the digits of the exponent. -/
  square (a b : Nat) : Nat → Nat
    | 0 => 1 % n.natAbs
    | fuel + 1 =>
      if b = 0 then 1 % n.natAbs
      else
        let half := square (a * a % n.natAbs) (b / 2) fuel
        if b % 2 = 0 then half else half * a % n.natAbs

/-- What gives one when it is multiplied by a number, modulo another one. -/
def inverseMod? (a n : Int) : Option Int :=
  match euclid (a.emod n).toNat 1 n.natAbs 0 with
  | (1, x) => some x
  | _ => none
where
  /-- The greatest common divisor of two numbers that are `x` and `y` times another one modulo
  the greater, and how many times that one it is. -/
  euclid (a : Nat) (x : Int) (b : Nat) (y : Int) : Nat × Int :=
    if a = 0 then (b, y) else euclid (b % a) (y - (b / a : Nat) * x) a x
  termination_by a
  decreasing_by exact Nat.mod_lt b (Nat.pos_of_ne_zero (by assumption))

/-- A power modulo a number, where no class is asked. -/
def powModOf (v w modulus : Value) : Native Value := do
  let h ← Native.heap
  let (x, y, z) := (h.core v, h.core w, h.core modulus)
  match x.int?, y.int?, z.int? with
  | some a, some b, some n =>
    if n = 0 then Native.valueError "pow() 3rd argument cannot be 0"
    else if 0 ≤ b then return .int (powMod a b.toNat n)
    else match inverseMod? a n with
      | some inverse => return .int (powMod inverse (-b).toNat n)
      | none => Native.valueError "base is not invertible for the given modulus"
  | _, _, _ =>
    if isComplex x || isComplex y || isComplex z then
      Native.valueError "complex modulo"
    else if x.numeric?.isSome && y.numeric?.isSome && z.numeric?.isSome then
      Native.typeError "pow() 3rd argument not allowed unless all arguments are integers"
    else
      Native.typeError ("unsupported operand type(s) for ** or pow(): " ++
        s!"'{h.typeName v}', '{h.typeName w}', '{h.typeName modulus}'")

/-- A power, perhaps modulo a number. -/
def powOf (v w modulus : Value) : Native Value := do
  match modulus, (← Native.heap).special? v "__pow__" with
  | .none, _ => binary .pow false v w
  | _, some method => askMethod v method [w, modulus]
  | _, none => powModOf v w modulus

/-! ## Digits -/

/-- An integer in a base, after a mark. -/
def inBase (base : Nat) (lead : String) (v : Value) : Native Value := do
  let n ← intArgument v
  let sign := if n < 0 then "-" else ""
  return .text (sign ++ lead ++ String.ofList (Nat.toDigits base n.natAbs))

end SnippetRunner.Evaluation
