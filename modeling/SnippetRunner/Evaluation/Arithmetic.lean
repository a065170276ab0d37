import SnippetRunner.Evaluation.Iteration
import SnippetRunner.Number.Complex
import SnippetRunner.Number.Reading

/-!
# Arithmetic

What the operators do with numbers.
-/

namespace SnippetRunner.Evaluation

open SnippetRunner.Snippet

/-- The float of an integer. -/
def floatOfInt (n : Int) : Native Float := do
  match Number.ofInt? n with
  | some x => return x
  | none => Native.fail "OverflowError" "int too large to convert to float"

/-- The float of a number. -/
def floatOfNumeric : Data.Numeric → Native Float
  | .int n => floatOfInt n
  | .float x => return x

/-- A division by zero. -/
def zeroDivision {α : Type} (message : String) : Native α :=
  Native.fail "ZeroDivisionError" message

/-- A result that is too large. -/
def tooLarge {α : Type} : Native α :=
  Native.failWith "OverflowError" [.int 34, .text "Numerical result out of range"]

/-- The number of items for which there cannot be room. -/
def roomLimit : Nat := 10000000000

/-- The number of words of thirty binary digits that no integer has. -/
def wordLimit : Nat := 2305843009213693951

/-- The most binary digits of a power that is worked out. -/
def powerLimit : Nat := 40000000

/-- A power of two complex numbers. -/
def complexPower (a b : Number.Complex) : Native Value := do
  match a.pow? b with
  | none => zeroDivision "0.0 to a negative or complex power"
  | some c =>
    if (c.re.isInf || c.im.isInf) && [a.re, a.im, b.re, b.im].all Float.isFinite then
      Native.fail "OverflowError" "complex exponentiation"
    else return .complex c.re c.im

/-- A power of two floats; a root of a negative number is complex. -/
def floatPower (x y : Float) : Native Value := do
  if x == 0.0 && y < 0.0 then zeroDivision "0.0 cannot be raised to a negative power"
  else
    let z := x.pow y
    if z.isInf && ! x.isInf && ! y.isInf then tooLarge
    else if z.isNaN && ! x.isNaN && ! y.isNaN then complexPower ⟨x, 0.0⟩ ⟨y, 0.0⟩
    else return .float z

/-- An operator on two integers; none if it has no meaning for them. -/
def intBinary (op : BinaryOp) (a b : Int) : Native Value := do
  match op with
  | .add => return .int (a + b)
  | .sub => return .int (a - b)
  | .mul => return .int (a * b)
  | .div =>
    if b = 0 then zeroDivision "division by zero"
    else match Number.quotient? a b with
      | some x => return .float x
      | none => Native.fail "OverflowError" "integer division result too large for a float"
  | .floorDiv =>
    if b = 0 then zeroDivision "integer division or modulo by zero" else return .int (a.fdiv b)
  | .mod => if b = 0 then zeroDivision "integer modulo by zero" else return .int (a.fmod b)
  | .pow =>
    if b < 0 then
      if a = 0 then zeroDivision "0.0 cannot be raised to a negative power"
      else floatPower (← floatOfInt a) (← floatOfInt b)
    else if 1 < a.natAbs ∧ powerLimit < (a.natAbs.log2 + 1) * b.toNat then
      Native.endless
    else return .int (Number.intPower a b.toNat)
  | .leftShift =>
    if b < 0 then Native.valueError "negative shift count"
    else if a = 0 then return .int 0
    else if wordLimit * 30 ≤ b then
      Native.fail "OverflowError" "too many digits in integer"
    else if roomLimit * 8 < b.toNat then Native.failWith "MemoryError" []
    else if powerLimit < b.toNat then Native.endless
    else return .int (a * Number.twoTo b.toNat)
  | .rightShift =>
    if b < 0 then Native.valueError "negative shift count"
    else if a.natAbs.log2 < b.toNat then return .int (if a < 0 then -1 else 0)
    else return .int (a >>> b.toNat)
  | .bitAnd => return .int (bits Nat.land a b (fun x y => x && y))
  | .bitOr => return .int (bits Nat.lor a b (fun x y => x || y))
  | .bitXor => return .int (bits Nat.xor a b (fun x y => x != y))
  | .matMul => return .notImplemented
where
  /-- A bitwise operation on integers in two's complement of sufficient width. -/
  bits (f : Nat → Nat → Nat) (a b : Int) (sign : Bool → Bool → Bool) : Int :=
    let width := max a.natAbs.log2 b.natAbs.log2 + 2
    let word (n : Int) : Nat := (n.emod (Number.twoTo width)).toNat
    let result := f (word a) (word b)
    if sign (decide (a < 0)) (decide (b < 0)) then (result : Int) - Number.twoTo width else result

/-- An operator on two floats. -/
def floatBinary (op : BinaryOp) (x y : Float) : Native Value := do
  match op with
  | .add => return .float (x + y)
  | .sub => return .float (x - y)
  | .mul => return .float (x * y)
  | .div => if y == 0.0 then zeroDivision "float division by zero" else return .float (x / y)
  | .floorDiv =>
    if y == 0.0 then zeroDivision "float floor division by zero"
    else return .float (Number.floorDivide x y).1
  | .mod =>
    if y == 0.0 then zeroDivision "float modulo" else return .float (Number.floorDivide x y).2
  | .pow => floatPower x y
  | _ => return .notImplemented

/-- An operator on two numbers. -/
def numericBinary (op : BinaryOp) : Data.Numeric → Data.Numeric → Native Value
  | .int a, .int b => intBinary op a b
  | a, b =>
    match op with
    | .bitAnd | .bitOr | .bitXor | .leftShift | .rightShift | .matMul => return .notImplemented
    | _ => do floatBinary op (← floatOfNumeric a) (← floatOfNumeric b)

/-- An operator on two truth values, if it keeps them. -/
def boolBinary? (op : BinaryOp) (a b : Bool) : Option Bool :=
  match op with
  | .bitAnd => some (a && b)
  | .bitOr => some (a || b)
  | .bitXor => some (a != b)
  | _ => none

/-- The complex number that a number is. -/
def complexOf? (v : Value) : Native (Option Number.Complex) := do
  match v, v.numeric? with
  | .complex re im, _ => return some ⟨re, im⟩
  | _, some n => return some ⟨← floatOfNumeric n, 0.0⟩
  | _, none => return none

/-- An operator on two complex numbers. -/
def complexBinary (op : BinaryOp) (a b : Number.Complex) : Native Value := do
  let made (c : Number.Complex) : Value := .complex c.re c.im
  match op with
  | .add => return made (a.add b)
  | .sub => return made (a.sub b)
  | .mul => return made (a.mul b)
  | .div =>
    match a.div? b with
    | some c => return made c
    | none => zeroDivision "complex division by zero"
  | .pow => complexPower a b
  | _ => return .notImplemented

/-- Whether a value is a complex number that is not real by its kind. -/
def isComplex : Value → Bool
  | .complex _ _ => true
  | _ => false

/-- An operator on two values, if both are numbers. -/
def numberBinary (op : BinaryOp) (v w : Value) : Native Value := do
  match v, w with
  | .bool a, .bool b =>
    match boolBinary? op a b with
    | some c => return .bool c
    | none => intBinary op (if a then 1 else 0) (if b then 1 else 0)
  | _, _ =>
    match v.numeric?, w.numeric? with
    | some a, some b => numericBinary op a b
    | _, _ =>
      if isComplex v || isComplex w then
        match ← complexOf? v, ← complexOf? w with
        | some a, some b => complexBinary op a b
        | _, _ => return .notImplemented
      else return .notImplemented

end SnippetRunner.Evaluation
