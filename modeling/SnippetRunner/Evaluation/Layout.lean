import SnippetRunner.Number.Shortest
import SnippetRunner.Text.CodeRanges

/-!
# Layouts

A format, taken apart: fill, alignment, sign, width, grouping, precision and the letter that says
in which form a number is written. A layout puts a text or a number into its width.
-/

namespace SnippetRunner.Evaluation

/-- A format, taken apart. -/
structure Layout where
  fill : Char := ' '
  align : Char := '<'
  sign : Option Char := none
  /-- Whether a zero that is left after rounding loses its minus sign. -/
  plainZero : Bool := false
  alternate : Bool := false
  width : Option Nat := none
  grouping : Option Char := none
  precision : Option Nat := none
  /-- The letter, if one is written. -/
  kind : Option Char := none

namespace Layout

/-! ## Reading -/

/-- Whether a character says where a value stands in its width. -/
def isAlign (c : Char) : Bool := c == '<' || c == '>' || c == '=' || c == '^'

/-- The fill and the alignment at the start of a format. -/
def readAlign (cs : List Char) : Option (Option Char × Char) × List Char :=
  match cs with
  | f :: a :: rest =>
    if isAlign a then (some (some f, a), rest)
    else if isAlign f then (some (none, f), a :: rest)
    else (none, cs)
  | [a] => if isAlign a then (some (none, a), []) else (none, cs)
  | [] => (none, [])

/-- A character at the start, if it is one of some. -/
def readOne (allowed : List Char) (cs : List Char) : Option Char × List Char :=
  match cs with
  | c :: rest => if allowed.contains c then (some c, rest) else (none, cs)
  | [] => (none, [])

/-- The decimal digits at the start, in any script. -/
def spanDecimals : List Char → List Nat × List Char
  | [] => ([], [])
  | c :: rest =>
    match Text.decimalValue? c with
    | some d =>
      let (digits, rest) := spanDecimals rest
      (d :: digits, rest)
    | none => ([], c :: rest)

/-- A number at the start. -/
def readDigits (cs : List Char) : Option Nat × List Char :=
  let (digits, rest) := spanDecimals cs
  (if digits.isEmpty then none else some (digits.foldl (fun n d => 10 * n + d) 0), rest)

/-- The greatest number that a format may name. -/
def numberLimit : Nat := 9223372036854775807

/-- A character as complaints show it. -/
def shownLetter (c : Char) : String :=
  if 32 < c.toNat && c.toNat < 128 then c.toString
  else "\\x" ++ String.ofList (Nat.toDigits 16 c.toNat)

/-- Checks that digits may be grouped in the form that a letter names. -/
def checkGrouping (grouping kind : Option Char) : Except String Unit :=
  match grouping, kind with
  | none, _ | _, none => .ok ()
  | some separator, some c =>
    if ['d', 'e', 'f', 'g', 'E', 'G', '%', 'F'].contains c then .ok ()
    else if separator == '_' && ['b', 'o', 'x', 'X'].contains c then .ok ()
    else .error s!"Cannot specify '{separator}' with '{shownLetter c}'."

/-- The precision after a point. -/
def readPrecision (cs : List Char) : Except String (Option Nat × List Char) :=
  match cs with
  | '.' :: rest =>
    match readDigits rest with
    | (none, _) => .error "Format specifier missing precision"
    | (some n, rest) =>
      if numberLimit < n then .error "Too many decimal digits in format string"
      else .ok (some n, rest)
  | _ => .ok (none, cs)

/-- Takes a format apart. The alignment and the letter are those that hold where none is
written. -/
def read (align : Char) (kind : Option Char) (cs : List Char) : Except String Layout := do
  let (aligned, cs) := readAlign cs
  let (sign, cs) := readOne ['+', '-', ' '] cs
  let (plainZero, cs) := readOne ['z'] cs
  let (alternate, cs) := readOne ['#'] cs
  let fill := aligned.bind (·.1)
  let (zero, cs) := if fill.isSome then (none, cs) else readOne ['0'] cs
  let standard := if zero.isSome && align == '>' then '=' else align
  let (width, cs) := readDigits cs
  if numberLimit < width.getD 0 then throw "Too many decimal digits in format string"
  let (comma, cs) := readOne [','] cs
  let (underline, cs) := readOne ['_'] cs
  if comma.isSome && underline.isSome then throw "Cannot specify both ',' and '_'."
  if underline.isSome && cs.head? == some ',' then throw "Cannot specify both ',' and '_'."
  let (precision, cs) ← readPrecision cs
  let kind ← match cs with
    | [] => pure kind
    | [c] => pure (some c)
    | _ => throw "Invalid format specifier"
  let grouping := comma.or underline
  checkGrouping grouping kind
  return {
    fill := fill.getD (if zero.isSome then '0' else ' ')
    align := (aligned.map (·.2)).getD standard
    sign, plainZero := plainZero.isSome, alternate := alternate.isSome, width, grouping
    precision, kind }

/-! ## Placing -/

/-- The fill, so many times. -/
def padding (l : Layout) (n : Nat) : String := String.ofList (List.replicate n l.fill)

/-- A text in the width of a layout. -/
def place (l : Layout) (body : String) : String :=
  let missing := l.width.getD 0 - body.length
  match l.align with
  | '<' => body ++ l.padding missing
  | '^' => l.padding (missing / 2) ++ body ++ l.padding (missing - missing / 2)
  | _ => l.padding missing ++ body

/-- Digits in groups from the right, with zeros before them until they take up a width. `digits`
are in reverse order; `fuel` bounds the number of groups. -/
def grouped (separator : Char) (size : Nat) : Nat → Nat → List Char → List Char
  | 0, _, digits => digits
  | fuel + 1, least, digits =>
    let n := min size (max (max digits.length least) 1)
    let group := digits.take n ++ List.replicate (n - digits.length) '0'
    let rest := digits.drop n
    if rest.isEmpty && least ≤ n then group
    else group ++ separator :: grouped separator size fuel (least - n - 1) rest

/-- A number in the width of a layout: its sign, its mark, its digits before a point and what
follows them. Zeros that fill the width before the digits are grouped with them. -/
def placeNumber (l : Layout) (negative : Bool) (mark digits rest : String) : String :=
  let sign := if negative then "-" else match l.sign with
    | some '+' => "+"
    | some ' ' => " "
    | _ => ""
  let fixed := sign.length + mark.length + rest.length
  let least := if l.fill == '0' && l.align == '=' then l.width.getD 0 - fixed else 0
  let size := match l.kind with
    | some c => if ['b', 'o', 'x', 'X'].contains c then 4 else 3
    | none => 3
  let body := match l.grouping with
    | some separator =>
      if digits.isEmpty then digits
      else
        let fuel := digits.length + least + 1
        String.ofList (grouped separator size fuel least digits.toList.reverse).reverse
    | none => digits
  let missing := l.width.getD 0 - (fixed + body.length)
  match l.align with
  | '<' => sign ++ mark ++ body ++ rest ++ l.padding missing
  | '^' =>
    l.padding (missing / 2) ++ sign ++ mark ++ body ++ rest ++ l.padding (missing - missing / 2)
  | '=' => sign ++ mark ++ l.padding missing ++ body ++ rest
  | _ => l.padding missing ++ sign ++ mark ++ body ++ rest

end Layout

/-! ## Forms of floats -/

/-- Decimal digits with a point after the first `point` ones, up to the place `last`. Places
without a digit have a zero. With an exponent, the point comes after the first digit. -/
def pointed (digits : List Char) (point last : Int) (exponent withZero alternate : Bool) :
    String :=
  let place := if exponent then 1 else point
  let first := if place ≤ 0 then place - 1 else 0
  let last := if ! exponent && withZero then max last (place + 1) else max last place
  let row := digits.toArray
  let digit (i : Int) : Char := if i < 0 then '0' else (row[i.toNat]?).getD '0'
  let stretch (a b : Int) : String :=
    String.ofList ((List.range (b - a).toNat).map fun (i : Nat) => digit (a + i))
  let fraction := stretch place last
  let dot := if fraction.isEmpty && ! alternate then "" else "."
  stretch first place ++ dot ++ fraction ++ if exponent then Number.exponentText (point - 1) else ""

/-- The digits of a float without trailing zeros, rounded to a number of digits, and how many of
them stand before the point. -/
def roundedDigits (count m : Nat) (q : Int) : List Char × Int :=
  if m = 0 then (['0'], 1)
  else
    let (found, last) := Number.significantDigits count m q
    let (short, exponent) := Number.dropZeros found last 2000
    let text := (toString short).toList
    (text, exponent + text.length)

/-- The fewest digits that tell a float from others, and how many of them stand before the
point. -/
def shortestPoint (m : Nat) (q : Int) : List Char × Int :=
  if m = 0 then (['0'], 1)
  else
    let (digits, exponent) := Number.shortestDigits m q
    let text := (toString digits).toList
    (text, exponent + text.length)

/-- The size of a finite float in the form that a letter names; without a letter or a precision it
is the shortest one. -/
def sizeText (kind : Option Char) (precision : Option Nat) (withZero alternate : Bool)
    (m : Nat) (q : Int) : String :=
  let general (n : Nat) (withZero : Bool) : String :=
    let n := max n 1
    let (digits, point) := roundedDigits n m q
    let exponent : Bool := point ≤ -4 || (if withZero then (n : Int) - 1 else n) < point
    pointed digits point (if alternate then n else digits.length) exponent withZero alternate
  let scientific (n : Nat) : String :=
    let (digits, point) := roundedDigits (n + 1) m q
    pointed digits point (n + 1) true false alternate
  let fixed (n : Nat) : String :=
    let (num, den) := Number.quotientOf m q
    let digits := toString (Number.roundQuotient .toEven (num * Number.tenTo n) den)
    let text := (Number.zeros (n + 1 - digits.length) ++ digits).toList
    let point : Int := (text.length : Int) - n
    pointed text point text.length false false alternate
  match kind, precision with
  | none, none =>
    let (digits, point) := shortestPoint m q
    pointed digits point digits.length (point ≤ -4 || 16 < point) withZero alternate
  | none, some n => general n withZero
  | some 'e', n => scientific (n.getD 6)
  | some 'f', n => fixed (n.getD 6)
  | some _, n => general (n.getD 6) false

end SnippetRunner.Evaluation
