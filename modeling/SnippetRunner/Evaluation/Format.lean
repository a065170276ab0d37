import SnippetRunner.Evaluation.Arithmetic
import SnippetRunner.Evaluation.Layout

/-!
# Formats

How a value is laid out by a format.
-/

namespace SnippetRunner.Evaluation

/-- A format, taken apart; what is wrong with it is a value error. -/
def layoutOf (align : Char) (kind : Option Char) (format : String) : Native Layout :=
  match Layout.read align kind format.toList with
  | .ok l => return l
  | .error complaint => Native.valueError complaint

/-- The complaint about a letter that has no meaning for a type. -/
def unknownLetter {α : Type} (kind : Char) (typeName : String) : Native α :=
  Native.valueError
    s!"Unknown format code '{Layout.shownLetter kind}' for object of type '{typeName}'"

/-- The most digits that a float is laid out with. -/
def precisionLimit : Nat := 2147483647

/-- Checks that there can be so many digits. -/
def checkPrecision (n : Option Nat) : Native Unit :=
  if precisionLimit < n.getD 0 then Native.valueError "precision too big"
  else if itemLimit < n.getD 0 then Native.endless
  else return

/-- Makes sure that there is room for a width. -/
def checkWidth (l : Layout) : Native Unit := do
  let n := l.width.getD 0
  if 10000000000 < n then Native.failWith "MemoryError" []
  if itemLimit < n then Native.endless

/-- The letters that name a form of floats. -/
def floatLetters : List Char := ['e', 'E', 'f', 'F', 'g', 'G', 'n', '%']

/-- The text of a float without its sign, and whether it has one. -/
def floatParts (l : Layout) (withZero : Bool) (x : Float) : Bool × String :=
  let kind := match l.kind with
    | some 'F' | some '%' => some 'f'
    | some 'n' => some 'g'
    | some 'E' => some 'e'
    | some 'G' => some 'g'
    | kind => kind
  let x := if l.kind == some '%' then x * 100.0 else x
  let (negative, body) := match Number.Dyadic.ofFloat x with
    | .nan => (false, "nan")
    | .infinite negative => (negative, "inf")
    | .finite negative m q =>
      let body := sizeText kind l.precision withZero l.alternate m q
      let zero := (body.toList.takeWhile (· != 'e')).all fun c => c == '0' || c == '.'
      (negative && ! (l.plainZero && zero), body)
  let upper := match l.kind with
    | some c => c == 'E' || c == 'F' || c == 'G'
    | none => false
  (negative, (if upper then body.toUpper else body) ++ if l.kind == some '%' then "%" else "")

/-- A float in a layout. -/
def layoutFloat (l : Layout) (x : Float) (typeName : String) : Native String := do
  checkPrecision l.precision
  checkWidth l
  match l.kind with
  | some c => if ! floatLetters.contains c then unknownLetter c typeName
  | none => pure ()
  let (negative, body) := floatParts l true x
  let (whole, rest) := Number.spanDigits body.toList
  return l.placeNumber negative "" (String.ofList whole) (String.ofList rest)

/-- A complex number in a layout. -/
def layoutComplex (l : Layout) (re im : Float) : Native String := do
  checkPrecision l.precision
  checkWidth l
  match l.kind with
  | some c => if c == '%' || ! floatLetters.contains c then unknownLetter c "complex"
  | none => pure ()
  if l.fill == '0' then
    Native.valueError "Zero padding is not allowed in complex format specifier"
  if l.align == '=' then
    Native.valueError "'=' alignment flag is not allowed in complex format specifier"
  let part (l : Layout) (x : Float) : String :=
    let (negative, body) := floatParts l false x
    let (whole, rest) := Number.spanDigits body.toList
    { l with width := none }.placeNumber negative "" (String.ofList whole) (String.ofList rest)
  let imaginary := part { l with sign := some '+' } im ++ "j"
  let alone := l.kind.isNone && re == 0.0 && ! Number.isNegative re
  let body :=
    if alone then part l im ++ "j"
    else if l.kind.isNone then "(" ++ part l re ++ imaginary ++ ")"
    else part l re ++ imaginary
  return l.place body

/-- The character of a code in a layout. -/
def layoutCode (l : Layout) (n : Int) : Native String := do
  match l.sign with
  | some _ => Native.valueError "Sign not allowed with integer format specifier 'c'"
  | none => pure ()
  if l.alternate then
    Native.valueError "Alternate form (#) not allowed with integer format specifier 'c'"
  if ! isSize n then
    Native.fail "OverflowError" "Python int too large to convert to C long"
  if n < 0 ∨ 0x110000 ≤ n then
    Native.fail "OverflowError" "%c arg not in range(0x110000)"
  return l.placeNumber false "" "" (Text.charOf n.toNat).toString

/-- An integer in a layout. -/
def layoutInt (l : Layout) (n : Int) (typeName : String) : Native String := do
  let kind := l.kind.getD 'd'
  if floatLetters.contains kind && kind != 'n' then layoutFloat l (← floatOfInt n) typeName
  else if ! ['b', 'c', 'd', 'o', 'x', 'X', 'n'].contains kind then unknownLetter kind typeName
  else
    if l.precision.isSome then
      Native.valueError "Precision not allowed in integer format specifier"
    if l.plainZero then
      Native.valueError "Negative zero coercion (z) not allowed in integer format specifier"
    checkWidth l
    let inBase (base : Nat) (mark : String) : String × String :=
      (if l.alternate then mark else "", String.ofList (Nat.toDigits base n.natAbs))
    if kind == 'c' then layoutCode l n
    else
      let (mark, digits) ← match kind with
        | 'b' => pure (inBase 2 "0b")
        | 'o' => pure (inBase 8 "0o")
        | 'x' => pure (inBase 16 "0x")
        | 'X' =>
          let (mark, digits) := inBase 16 "0X"
          pure (mark, digits.toUpper)
        | _ => pure ("", ← decimalOf n.natAbs)
      return l.placeNumber (n < 0) mark digits ""

/-- A text in a layout. -/
def layoutText (l : Layout) (s : String) : Native String := do
  match l.kind with
  | none | some 's' => pure ()
  | some c => unknownLetter c "str"
  match l.sign with
  | some ' ' => Native.valueError "Space not allowed in string format specifier"
  | some _ => Native.valueError "Sign not allowed in string format specifier"
  | none => pure ()
  if l.plainZero then
    Native.valueError "Negative zero coercion (z) not allowed in string format specifier"
  if l.alternate then
    Native.valueError "Alternate form (#) not allowed in string format specifier"
  if l.align == '=' then
    Native.valueError "'=' alignment not allowed in string format specifier"
  checkWidth l
  let cut := match l.precision with
    | some n => String.ofList (s.toList.take n)
    | none => s
  return l.place cut

/-- A value of a known type laid out by a format. -/
def coreFormatted (v core : Value) (format : String) : Native String := do
  let typeName := (← Native.heap).typeName v
  if format.isEmpty then textOf v
  else match core, core.int?, core.float? with
    | .text s, _, _ => layoutText (← layoutOf '<' (some 's') format) s
    | _, some n, _ => layoutInt (← layoutOf '>' (some 'd') format) n typeName
    | _, none, some x => layoutFloat (← layoutOf '>' none format) x typeName
    | .complex re im, none, none => layoutComplex (← layoutOf '>' none format) re im
    | _, none, none =>
      Native.typeError s!"unsupported format string passed to {typeName}.__format__"

/-- A value laid out by a format. -/
def formatted (v : Value) (format : String) : Native String := do
  let h ← Native.heap
  match h.special? v "__format__" with
  | some method =>
    match ← askMethod v method [.text format] with
    | .text s => return s
    | answer =>
      Native.typeError s!"__format__ must return a str, not {(← Native.heap).typeName answer}"
  | none => coreFormatted v (h.core v) format

end SnippetRunner.Evaluation
