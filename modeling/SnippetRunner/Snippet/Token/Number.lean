import SnippetRunner.Number.Reading
import SnippetRunner.Text.CodeRanges

/-!
# Number tokens

Where a number in a source ends, and what number it is: decimal, hexadecimal, octal and binary
integers, floats and imaginary numbers, with single underscores between digits.
-/

namespace SnippetRunner.Snippet

/-- What is wrong with a number, after reading some of its characters; `from?` narrows the place
to the characters between two counts. -/
structure NumberFault where
  message : String
  consumed : Nat
  range : Option (Nat × Nat) := none

/-- A character that may belong to a name, among the characters of a source. -/
def mayContinueName (c : Char) : Bool := c.isAlphanum || c == '_' || 128 ≤ c.toNat

/-- Reads digits of a class with single underscores between them; at least one digit must follow
each underscore. Returns how many characters were read, or how many before the fault. -/
def scanDigits (isDigit : Char → Bool) (count : Nat) : List Char → Except Nat (Nat × List Char)
  | [] => .ok (count, [])
  | c :: rest =>
    if isDigit c then scanDigits isDigit (count + 1) rest
    else if c == '_' then
      match rest with
      | d :: _ => if isDigit d then scanDigits isDigit (count + 1) rest else .error (count + 1)
      | [] => .error (count + 1)
    else .ok (count, c :: rest)

/-- Whether a text starts with a word that may follow a number without a blank: a whole word, or
one of the short ones, which are known by their two letters. -/
def wordMayFollow (cs : List Char) : Bool :=
  ["if", "in", "is"].any (fun w => w.toList.isPrefixOf cs) ||
  ["and", "else", "for", "or", "not"].any fun w =>
    w.toList.isPrefixOf cs && ! (cs.drop w.length).head?.any mayContinueName

/-- A number must not run into a name. -/
def endNumber (kind : String) (count : Nat) (rest : List Char) : Except NumberFault Nat :=
  if wordMayFollow rest then .ok count
  else match rest with
    | c :: _ =>
      if mayContinueName c then .error { message := s!"invalid {kind} literal", consumed := count }
      else .ok count
    | [] => .ok count

/-- Decimal digits inside a number. -/
def decimalTail (count : Nat) (cs : List Char) : Except NumberFault (Nat × List Char) :=
  match scanDigits Char.isDigit count cs with
  | .ok r => .ok r
  | .error n => .error { message := "invalid decimal literal", consumed := n }

/-- After the digits of a number: perhaps an exponent, perhaps the mark of an imaginary one. -/
def scanImaginary (count : Nat) (rest : List Char) : Except NumberFault Nat :=
  match rest with
  | c :: more =>
    if c == 'j' || c == 'J' then endNumber "imaginary" (count + 1) more
    else endNumber "decimal" count rest
  | [] => .ok count

/-- Perhaps an exponent. -/
def scanExponent (count : Nat) (rest : List Char) : Except NumberFault Nat :=
  match rest with
  | e :: more =>
    if e == 'e' || e == 'E' then
      match more with
      | d :: digits =>
        if d == '+' || d == '-' then
          if digits.head?.any Char.isDigit then do
            let (n, rest) ← decimalTail (count + 2) digits
            scanImaginary n rest
          else .error { message := "invalid decimal literal", consumed := count + 2 }
        else if d.isDigit then do
          let (n, rest) ← decimalTail (count + 1) more
          scanImaginary n rest
        else endNumber "decimal" count rest
      | [] => endNumber "decimal" count rest
    else scanImaginary count rest
  | [] => .ok count

/-- After a decimal point. -/
def scanFraction (count : Nat) (rest : List Char) : Except NumberFault Nat :=
  if rest.head?.any Char.isDigit then do
    let (n, rest) ← decimalTail count rest
    scanExponent n rest
  else scanExponent count rest

/-- After the whole part: perhaps a point. -/
def scanPoint (count : Nat) (rest : List Char) : Except NumberFault Nat :=
  match rest with
  | '.' :: more => scanFraction (count + 1) more
  | _ => scanExponent count rest

/-- Digits of another base after its mark. -/
def scanBase (kind : String) (isDigit : Char → Bool) (strict : Bool) (rest : List Char) :
    Except NumberFault Nat :=
  let body := match rest with
    | '_' :: more => more
    | _ => rest
  let skipped := 2 + (rest.length - body.length)
  let bad (n : Nat) (after : List Char) : NumberFault :=
    match after with
    | c :: _ =>
      if strict && c.isDigit then
        { message := s!"invalid digit '{c}' in {kind} literal", consumed := n + 1 }
      else { message := s!"invalid {kind} literal", consumed := n }
    | [] => { message := s!"invalid {kind} literal", consumed := n }
  if body.head?.any isDigit then
    match scanDigits isDigit skipped body with
    | .error n => .error (bad n (rest.drop (n - 2)))
    | .ok (n, after) =>
      if strict && after.head?.any Char.isDigit then .error (bad n after)
      else endNumber kind n after
  else .error (bad skipped body)

/-- Leading zeros of a decimal number, with underscores. -/
def scanZeros (count : Nat) : List Char → Except NumberFault (Nat × List Char)
  | '_' :: d :: rest =>
    if d == '0' then scanZeros (count + 2) rest
    else if d.isDigit then .ok (count + 1, d :: rest)
    else .error { message := "invalid decimal literal", consumed := count + 1 }
  | ['_'] => .error { message := "invalid decimal literal", consumed := count + 1 }
  | '0' :: rest => scanZeros (count + 1) rest
  | cs => .ok (count, cs)

/-- How many characters the number at the start of a text has. The text starts with a digit, or
with a point and a digit. -/
def scanNumber (cs : List Char) : Except NumberFault Nat :=
  match cs with
  | '.' :: rest => scanFraction 1 rest
  | '0' :: x :: rest =>
    if x == 'x' || x == 'X' then
      scanBase "hexadecimal" (fun c => (Text.hexDigit? c).isSome) false rest
    else if x == 'o' || x == 'O' then
      scanBase "octal" (fun c => '0' ≤ c && c ≤ '7') true rest
    else if x == 'b' || x == 'B' then
      scanBase "binary" (fun c => c == '0' || c == '1') true rest
    else do
      let (zeros, rest) ← scanZeros 1 (x :: rest)
      if rest.head?.any Char.isDigit then
        let (n, after) ← decimalTail zeros rest
        match after with
        | c :: _ =>
          if c == '.' || c == 'e' || c == 'E' || c == 'j' || c == 'J' then scanPoint n after
          else leadingZeros n zeros
        | [] => leadingZeros n zeros
      else scanPoint zeros rest
  | _ => do
    let (n, rest) ← decimalTail 0 cs
    scanPoint n rest
where
  /-- A decimal integer other than zero must not start with zeros. -/
  leadingZeros (n zeros : Nat) : Except NumberFault Nat :=
    .error
      { message := "leading zeros in decimal integer literals are not permitted; " ++
          "use an 0o prefix for octal integers"
        consumed := n
        range := some (1, zeros + 1) }

/-- The value of a number token. -/
inductive NumberValue where
  | int (n : Int)
  | float (x : Float)
  | imaginary (x : Float)
  /-- Too many decimal digits. -/
  | tooLong (digits : Nat)

/-- The value of a numeral in another base. -/
def baseValue (base : Nat) (cs : List Char) : Nat :=
  cs.foldl (fun n c => match Text.hexDigit? c with
    | some d => base * n + d
    | none => n) 0

/-- The value that a number token writes. -/
def numberValue (text : String) : NumberValue :=
  let cs := text.toList.filter (· != '_')
  let floatOf (cs : List Char) : Float := (Number.readDecimal? cs).getD 0.0
  match cs with
  | '0' :: x :: rest =>
    if x == 'x' || x == 'X' then .int (baseValue 16 rest)
    else if x == 'o' || x == 'O' then .int (baseValue 8 rest)
    else if x == 'b' || x == 'B' then .int (baseValue 2 rest)
    else decimal cs floatOf
  | _ => decimal cs floatOf
where
  /-- A decimal number: an integer if it has digits only. -/
  decimal (cs : List Char) (floatOf : List Char → Float) : NumberValue :=
    match cs.reverse with
    | last :: more =>
      if last == 'j' || last == 'J' then .imaginary (floatOf more.reverse)
      else if cs.all Char.isDigit then
        if Number.digitLimit < cs.length then .tooLong cs.length else .int (Number.digitsValue cs)
      else .float (floatOf cs)
    | [] => .int 0

end SnippetRunner.Snippet
