import SnippetRunner.Evaluation.Format

/-!
# Numbers and texts that values stand for

What a value stands for where a text, an integer or a float is wanted: it is one, a text writes
one, or its class tells one.
-/

namespace SnippetRunner.Evaluation

/-! ## Arguments -/

/-- How the type of an argument is told: `None` stands for itself. -/
def argumentType (v : Value) : Native String := do
  match v with
  | .none => return "None"
  | _ => return (← Native.heap).typeName v

/-- A text argument, where `place` tells whose it is. -/
def textArgument (place : String) (v : Value) : Native String := do
  match (← Native.heap).text? v with
  | some s => return s
  | none => Native.typeError s!"{place}must be str, not {← argumentType v}"

/-- An integer argument. -/
def intArgument (v : Value) : Native Int := do
  match ← indexOf? v with
  | some n => return n
  | none =>
    let typeName := (← Native.heap).typeName v
    Native.typeError s!"'{typeName}' object cannot be interpreted as an integer"

/-- An integer argument that has to fit into a word of 32 binary digits. -/
def wordArgument (v : Value) : Native Int := do
  let n ← intArgument v
  if -2147483648 ≤ n ∧ n ≤ 2147483647 then return n
  else Native.fail "OverflowError" "Python int too large to convert to C int"

/-- An integer argument that counts or places items. -/
def sizeArgument (v : Value) : Native Int := do
  let n ← intArgument v
  if isSize n then return n
  else Native.fail "OverflowError" "Python int too large to convert to C ssize_t"

/-! ## Integers -/

/-- A float as an integer in some rounding. -/
def integral (round : Float → Option Int) (x : Float) : Native Int := do
  match round x with
  | some n => return n
  | none =>
    if x.isNaN then Native.valueError "cannot convert float NaN to integer"
    else Native.fail "OverflowError" "cannot convert float infinity to integer"

/-- An integer that a text or a byte string writes; `shown` is how it is told. -/
def readInteger (base : Nat) (s shown : String) : Native Int := do
  let read := if base = 10 then Number.readInt s else Number.readInBase base s
  match read with
  | .ok n => return n
  | .error .malformed =>
    Native.valueError s!"invalid literal for int() with base {base}: {shown}"
  | .error fault => Native.valueError (fault.complaint base s)

/-- A byte string as a text with the same numbers. -/
def latinText (bs : List UInt8) : String := String.ofList (bs.map fun b => Char.ofNat b.toNat)

/-- The integer that a number is or that a class tells for a value; none if it tells none. -/
def integerOf? (v : Value) : Native (Option Int) := do
  let h ← Native.heap
  let told (method : Value) (other : String → Native (Option Int)) : Native (Option Int) := do
    let answer ← askMethod v method []
    match ((← Native.heap).core answer).int? with
    | some n => return some n
    | none => other ((← Native.heap).typeName answer)
  match h.special? v "__int__", (h.core v).int?, (h.core v).float? with
  | some method, _, _ =>
    told method fun kind => Native.typeError s!"__int__ returned non-int (type {kind})"
  | none, some n, _ => return some n
  | none, none, some x => return some (← integral Number.truncate? x)
  | none, none, none =>
    match ← indexOf? v, h.special? v "__trunc__" with
    | some n, _ => return some n
    | none, some method =>
      told method fun kind =>
        Native.typeError s!"__trunc__ returned non-Integral (type {kind})"
    | none, none => return none

/-- A value as an integer. -/
def intOf (v : Value) : Native Int := do
  match ← integerOf? v with
  | some n => return n
  | none =>
    let h ← Native.heap
    match h.core v with
    | .text s => readInteger 10 s (← inspect v)
    | .bytes bs => readInteger 10 (latinText bs) (← inspect v)
    | _ =>
      Native.typeError ("int() argument must be a string, a bytes-like object or a real number, "
        ++ s!"not '{h.typeName v}'")

/-- A text or a byte string in a base as an integer. -/
def intInBase (v base : Value) : Native Int := do
  let base ← intArgument base
  if base ≠ 0 ∧ (base < 2 ∨ 36 < base) then
    Native.valueError "int() base must be >= 2 and <= 36, or 0"
  else match (← Native.heap).core v with
    | .text s => readInteger base.toNat s (← inspect v)
    | .bytes bs => readInteger base.toNat (latinText bs) (← inspect v)
    | _ => Native.typeError "int() can't convert non-string with explicit base"

/-! ## Floats -/

/-- The float that a number is or that a class tells for a value; none if it tells none. -/
def realOf? (v : Value) : Native (Option Float) := do
  let h ← Native.heap
  match h.special? v "__float__", h.numeric? v with
  | some method, _ =>
    let answer ← askMethod v method []
    let h ← Native.heap
    match (h.core answer).float? with
    | some x => return some x
    | none =>
      Native.typeError
        s!"{h.typeName v}.__float__ returned non-float (type {h.typeName answer})"
  | none, some n => return some (← floatOfNumeric n)
  | none, none =>
    match ← indexOf? v with
    | some n => return some (← floatOfInt n)
    | none => return none

/-- An argument that has to be a real number, as a float. -/
def realArgument (v : Value) : Native Float := do
  let h ← Native.heap
  match (h.core v).float? with
  | some x => return x
  | none =>
    match ← realOf? v with
    | some x => return x
    | none => Native.typeError s!"must be real number, not {h.typeName v}"

/-- A value as a float. -/
def floatOf (v : Value) : Native Float := do
  let read (s : String) : Native Float := do
    match Number.readFloat? s with
    | some x => return x
    | none => Native.valueError s!"could not convert string to float: {← inspect v}"
  match ← realOf? v with
  | some x => return x
  | none =>
    let h ← Native.heap
    match h.core v with
    | .text s => read s
    | .bytes bs => read (latinText bs)
    | _ =>
      Native.typeError
        s!"float() argument must be a string or a real number, not '{h.typeName v}'"

end SnippetRunner.Evaluation
