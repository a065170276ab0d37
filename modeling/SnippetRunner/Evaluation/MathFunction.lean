import SnippetRunner.Evaluation.NumberFunction
import SnippetRunner.Evaluation.Sorting
import SnippetRunner.Number.Division
import SnippetRunner.Number.Special

/-!
# The functions of the mathematical module

Functions of floats are told apart by where they are not defined and where they become too large.
Functions of integers, lengths and sums are worked out exactly and rounded once.
-/

namespace SnippetRunner.Evaluation

/-- The complaint about arguments for which a function is not defined. -/
def domainFault {α : Type} : Native α := Native.valueError "math domain error"

/-- The complaint about a result that is too large. -/
def rangeFault {α : Type} : Native α := Native.fail "OverflowError" "math range error"

/-- The number pi. -/
def piFloat : Float := 3.141592653589793

/-! ## Functions of one float -/

/-- A function of floats, and whether it can become too large. -/
def floatFunction? : String → Option ((Float → Float) × Bool)
  | "sin" => some (Float.sin, false)
  | "cos" => some (Float.cos, false)
  | "tan" => some (Float.tan, false)
  | "asin" => some (Float.asin, false)
  | "acos" => some (Float.acos, false)
  | "atan" => some (Float.atan, false)
  | "sinh" => some (Float.sinh, true)
  | "cosh" => some (Float.cosh, true)
  | "tanh" => some (Float.tanh, false)
  | "asinh" => some (Float.asinh, false)
  | "acosh" => some (Float.acosh, false)
  | "atanh" => some (Float.atanh, false)
  | "exp" => some (Float.exp, true)
  | "exp2" => some (Float.exp2, true)
  | "expm1" => some (exponentialLessOne, true)
  | "log1p" => some (logarithmOfMore, false)
  | "sqrt" => some (Float.sqrt, false)
  | "cbrt" => some (Float.cbrt, false)
  | "fabs" => some (Float.abs, false)
  | "erf" => some (Number.errorFunction, false)
  | "erfc" => some (Number.errorComplement, false)
  | "degrees" => some (fun x => x * (180.0 / piFloat), false)
  | "radians" => some (fun x => x * (piFloat / 180.0), false)
  | _ => none
where
  /-- The exponential function less one, also where that is small. -/
  exponentialLessOne (x : Float) : Float :=
    let u := x.exp
    if u == 1.0 then x
    else if u - 1.0 == -1.0 then -1.0
    else if u.isInf then u
    else (u - 1.0) * x / u.log
  /-- The logarithm of one and more, also where that is little more. -/
  logarithmOfMore (x : Float) : Float :=
    let u := 1.0 + x
    if u == 1.0 then x else if u.isInf then u else u.log * x / (u - 1.0)

/-- A function of floats at a place, unless it is not defined there or too large. -/
def applyFloat (f : Float → Float) (canOverflow : Bool) (x : Float) : Native Value := do
  let y := f x
  if y.isNaN && ! x.isNaN then domainFault
  else if y.isInf && x.isFinite then (if canOverflow then rangeFault else domainFault)
  else return .float y

/-- The gamma function, which is not defined at zero and the negative integers. -/
def gammaOf (x : Float) : Native Value := do
  if x == 0.0 then domainFault else applyFloat Number.gamma true x

/-- The logarithm of the gamma function, which is not defined where that is not. -/
def logGammaOf (x : Float) : Native Value := do
  if x ≤ 0.0 && x == x.floor && x.isFinite then domainFault
  else applyFloat Number.logGamma true x

/-! ## Logarithms -/

/-- A logarithm of a positive number; that of an integer beyond all floats is put together. -/
def logarithm (f : Float → Float) (v : Value) : Native Float := do
  match ((← Native.heap).core v).int? with
  | some n =>
    if n ≤ 0 then domainFault
    else match Number.ofInt? n with
      | some x => return f x
      | none =>
        let shift := n.natAbs.log2 - 60
        let x := Float.ofScientific (n.natAbs / Number.twoTo shift) false 0
        return f x + f 2.0 * Float.ofScientific shift false 0
  | none =>
    let x ← realArgument v
    if x.isNaN then return x
    else if x ≤ 0.0 then domainFault
    else return f x

/-- A logarithm, perhaps to a base. -/
def logarithmOf (args : List Value) : Native Value := do
  match args with
  | [v] => return .float (← logarithm Float.log v)
  | [v, base] =>
    let x ← logarithm Float.log v
    let y ← logarithm Float.log base
    if y == 0.0 then zeroDivision "float division by zero" else return .float (x / y)
  | _ => Native.typeError "math.log requires 1 to 2 arguments"

/-! ## Functions of two floats -/

/-- A power of floats. -/
def powerOf (x y : Float) : Native Value := do
  let z := x.pow y
  if ! x.isFinite || ! y.isFinite then return .float z
  else if z.isNaN then domainFault
  else if z.isInf then (if x == 0.0 then domainFault else rangeFault)
  else return .float z

/-- What is left of a float by another one, with the sign of the first. -/
def remainderOf (x y : Float) : Native Value := do
  if x.isNaN || y.isNaN then return .float (x + y)
  else if x.isInf || y == 0.0 then domainFault
  else if y.isInf then return .float x
  else return .float (Number.remainder x y)

/-- What is left of a float by the nearest multiple of another one. -/
def nearestRemainder (x y : Float) : Native Value := do
  match Number.Dyadic.ofFloat x, Number.Dyadic.ofFloat y with
  | .finite sx mx qx, .finite _ my qy =>
    if my = 0 then domainFault
    else
      let least := min qx qy
      let a := Number.signed sx (mx * Number.twoTo (qx - least).toNat)
      let b := my * Number.twoTo (qy - least).toNat
      let times := Number.roundQuotient .toEven a.natAbs b
      let rest := a - Number.signed sx (times * b)
      if rest = 0 then return .float (if sx then -0.0 else 0.0)
      else return .float (Number.floatOfParts (decide (rest < 0)) rest.natAbs least)
  | _, _ =>
    if x.isNaN || y.isNaN then return .float (x + y)
    else if x.isInf then domainFault
    else return .float x

/-- A float with the sign of another one. -/
def withSign (x y : Float) : Float := if Number.isNegative y then -x.abs else x.abs

/-- The next float after one towards another one. -/
def nextAfter (x y : Float) : Float :=
  if x.isNaN || y.isNaN then x + y
  else if x == y then y
  else if x == 0.0 then withSign (Float.ofBits 1) y
  else if (x < y) == (0.0 < x) then Float.ofBits (x.toBits + 1)
  else Float.ofBits (x.toBits - 1)

/-- The worth of the last binary digit of a float. -/
def lastPlace (x : Float) : Float :=
  let x := x.abs
  if x.isNaN || x.isInf then x
  else
    let next := Float.ofBits (x.toBits + 1)
    if next.isInf then x - Float.ofBits (x.toBits - 1) else next - x

/-- A float times a power of two. -/
def scaledBy (x : Float) (power : Int) : Native Value := do
  match Number.Dyadic.ofFloat x with
  | .finite negative m q =>
    if m = 0 then return .float x
    else if 3000 < power then rangeFault
    else if power < -3000 then return .float (if negative then -0.0 else 0.0)
    else match Number.nearest? m (q + power) with
      | some y => return .float (if negative then -y else y)
      | none => rangeFault
  | _ => return .float x

/-- A float as a fraction between a half and one, and a power of two. -/
def fractionAndPower (x : Float) : Value :=
  match Number.Dyadic.ofFloat x with
  | .finite negative m q =>
    if m = 0 then .tuple [.float x, .int 0]
    else
      let power : Int := q + m.log2 + 1
      let y := Number.floatOfParts negative m (-(m.log2 : Int) - 1)
      .tuple [.float y, .int power]
  | _ => .tuple [.float x, .int 0]

/-- The fraction of a float behind its point, and the rest. -/
def fractionAndWhole (x : Float) : Value :=
  if x.isInf then .tuple [.float (withSign 0.0 x), .float x]
  else if x.isNaN then .tuple [.float x, .float x]
  else
    let whole := withSign x.abs.floor x
    .tuple [.float (withSign (x - whole) x), .float whole]

/-! ## Rows -/

/-- The sum of floats, rounded once. -/
def exactSum (xs : List Float) : Native Value := do
  if xs.any Float.isNaN then return .float Value.notNumber
  else if xs.any Float.isInf then
    let infinite := xs.filter Float.isInf
    if infinite.any (0.0 < ·) && infinite.any (· < 0.0) then
      Native.valueError "-inf + inf in fsum"
    else return .float (infinite.headD 0.0)
  else
    let parts := xs.map fun x =>
      match Number.Dyadic.ofFloat x with
      | .finite negative m q => (Number.signed negative m, q)
      | _ => (0, 0)
    let least := (parts.map (·.2)).foldl min 0
    let sum : Int :=
      parts.foldl (fun sum (m, q) => sum + m * Number.twoTo (q - least).toNat) 0
    match Number.nearest? sum.natAbs least with
    | some y => return .float (if sum < 0 then -y else y)
    | none => Native.fail "OverflowError" "intermediate overflow in fsum"

/-- The length of a vector. -/
def lengthOfVector (xs : List Float) : Native Value := do
  match Number.length? xs with
  | some x => return .float x
  | none => return .float (1.0 / 0.0)

/-- The distance of two points. -/
def distanceOf (v w : Value) : Native Value := do
  let xs ← (← itemsOf v).mapM realArgument
  let ys ← (← itemsOf w).mapM realArgument
  if xs.length ≠ ys.length then
    Native.valueError "both points must have the same number of dimensions"
  lengthOfVector ((xs.zip ys).map fun (x, y) => x - y)

/-- Whether two floats are close to each other. -/
def areClose (x y relative absolute : Float) : Native Value := do
  if relative < 0.0 || absolute < 0.0 then
    Native.valueError "tolerances must be non-negative"
  else if x == y then return .bool true
  else if x.isInf || y.isInf then return .bool false
  else
    let d := (x - y).abs
    return .bool (d ≤ (relative * y).abs || d ≤ (relative * x).abs || d ≤ absolute)

/-! ## Functions of integers -/

/-- The product of so many integers that fall from one on. -/
def fallingProduct (n k : Nat) : Nat :=
  (List.range k).foldl (fun acc (i : Nat) => acc * (n - i)) 1

/-- An argument that has to be an integer of the snippet that is not negative. -/
def countArgument (name : String) (v : Value) : Native Nat := do
  let n ← intArgument v
  if n < 0 then Native.valueError s!"{name} must be a non-negative integer" else return n.toNat

/-- How many ways there are to choose some among others, in order or not. -/
def choices (ordered : Bool) (n k : Nat) : Native Value := do
  if n < k then return .int 0
  else
    let few := if ordered then k else min k (n - k)
    if 20000 < few then Native.endless
    else
      let product := fallingProduct n few
      return .int (if ordered then product else product / fallingProduct few few)

/-- The product of all numbers up to one. -/
def factorialOf (v : Value) : Native Value := do
  let n ← intArgument v
  if n < 0 then Native.valueError "factorial() not defined for negative values"
  else if (sizeLimit : Int) < n then
    Native.fail "OverflowError" s!"factorial() argument should not exceed {sizeLimit}"
  else if 100000 < n then Native.endless
  else return .int (fallingProduct n.toNat n.toNat)

/-- The least common multiple of two numbers. -/
def commonMultiple (a b : Nat) : Nat := if a = 0 || b = 0 then 0 else a / a.gcd b * b

/-! ## Calls -/

/-- A number rounded to an integer, or what its class says about that. -/
def roundedBy (special : String) (round : Float → Option Int) (v : Value) : Native Value := do
  match (← Native.heap).special? v special with
  | some method => askMethod v method []
  | none =>
    match ((← Native.heap).core v).int? with
    | some n => return .int n
    | none => return .int (← integral round (← realArgument v))

/-- A number without what is behind its point. -/
def truncated (v : Value) : Native Value := do
  let h ← Native.heap
  match h.special? v "__trunc__", h.numeric? v with
  | some method, _ => askMethod v method []
  | none, some _ => return .int (← intOf v)
  | none, none => Native.typeError s!"type {h.typeName v} doesn't define __trunc__ method"

/-- A function of the mathematical module, with fitting arguments. -/
def callMath (name : String) (args : List Value) (keywords : Table) : Native Value := do
  match floatFunction? name, name, args with
  | some (f, canOverflow), _, [v] => applyFloat f canOverflow (← realArgument v)
  | _, "gamma", [v] => gammaOf (← realArgument v)
  | _, "lgamma", [v] => logGammaOf (← realArgument v)
  | _, "floor", [v] => roundedBy "__floor__" Number.floor? v
  | _, "ceil", [v] => roundedBy "__ceil__" Number.ceiling? v
  | _, "trunc", [v] => truncated v
  | _, "isnan", [v] => return .bool (← realArgument v).isNaN
  | _, "isinf", [v] => return .bool (← realArgument v).isInf
  | _, "isfinite", [v] => return .bool (← realArgument v).isFinite
  | _, "log", _ => logarithmOf args
  | _, "log2", [v] => return .float (← logarithm Float.log2 v)
  | _, "log10", [v] => return .float (← logarithm Float.log10 v)
  | _, "pow", [v, w] => powerOf (← realArgument v) (← realArgument w)
  | _, "fmod", [v, w] => remainderOf (← realArgument v) (← realArgument w)
  | _, "remainder", [v, w] => nearestRemainder (← realArgument v) (← realArgument w)
  | _, "atan2", [v, w] => return .float ((← realArgument v).atan2 (← realArgument w))
  | _, "copysign", [v, w] => return .float (withSign (← realArgument v) (← realArgument w))
  | _, "nextafter", [v, w] => return .float (nextAfter (← realArgument v) (← realArgument w))
  | _, "ulp", [v] => return .float (lastPlace (← realArgument v))
  | _, "ldexp", [v, w] =>
    let x ← realArgument v
    match ((← Native.heap).core w).int? with
    | some n => scaledBy x n
    | none => Native.typeError "Expected an int as second argument to ldexp."
  | _, "frexp", [v] => return fractionAndPower (← realArgument v)
  | _, "modf", [v] => return fractionAndWhole (← realArgument v)
  | _, "fsum", [v] => exactSum (← (← itemsOf v).mapM realArgument)
  | _, "hypot", _ => lengthOfVector (← args.mapM realArgument)
  | _, "dist", [v, w] => distanceOf v w
  | _, "isclose", v :: w :: rest =>
    let tolerance (i : Nat) (standard : Float) : Native Float :=
      match rest[i]? with
      | none | some .none => return standard
      | some v => realArgument v
    areClose (← realArgument v) (← realArgument w) (← tolerance 0 1e-9) (← tolerance 1 0.0)
  | _, "prod", [v] =>
    (← itemsOf v).foldlM (binary .mul false) ((keywords.get? "start").getD (.int 1))
  | _, "gcd", _ =>
    let ns ← args.mapM intArgument
    let divisor : Nat := ns.foldl (fun acc n => acc.gcd n.natAbs) 0
    return .int divisor
  | _, "lcm", _ =>
    let ns ← args.mapM intArgument
    let multiple : Nat := ns.foldl (fun acc n => commonMultiple acc n.natAbs) 1
    return .int multiple
  | _, "isqrt", [v] =>
    let n ← intArgument v
    if n < 0 then Native.valueError "isqrt() argument must be nonnegative"
    else return .int (Number.natRoot n.toNat)
  | _, "comb", [v, w] => choices false (← countArgument "n" v) (← countArgument "k" w)
  | _, "perm", [v] => choices true (← countArgument "n" v) (← countArgument "n" v)
  | _, "perm", [v, w] =>
    let n ← countArgument "n" v
    match w with
    | .none => choices true n n
    | _ => choices true n (← countArgument "k" w)
  | _, "factorial", [v] => factorialOf v
  | _, _, _ => Native.unavailable name

/-- The functions of the mathematical module by name. -/
def mathFunctions : List String :=
  ["acos", "acosh", "asin", "asinh", "atan", "atan2", "atanh", "cbrt", "ceil", "comb", "copysign",
    "cos", "cosh", "degrees", "dist", "erf", "erfc", "exp", "exp2", "expm1", "fabs", "factorial",
    "floor", "fmod", "frexp", "fsum", "gamma", "gcd", "hypot", "isclose", "isfinite", "isinf",
    "isnan", "isqrt", "lcm", "ldexp", "lgamma", "log", "log10", "log1p", "log2", "modf",
    "nextafter", "perm", "pow", "prod", "radians", "remainder", "sin", "sinh", "sqrt", "tan",
    "tanh", "trunc", "ulp"]

/-- The constants of the mathematical module. -/
def mathConstants : Table :=
  [("pi", .float piFloat), ("e", .float 2.718281828459045), ("tau", .float 6.283185307179586),
    ("inf", .float (1.0 / 0.0)), ("nan", .nan 0)]

end SnippetRunner.Evaluation
