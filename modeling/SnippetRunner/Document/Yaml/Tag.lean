import SnippetRunner.Data.Moment

/-!
# Tags

What kind of thing a node is. A node may say so itself; a plain scalar that does not is what it
looks like: a truth value, a number, a date, nothing at all, or else text.
-/

namespace SnippetRunner.Document.Yaml

/-- The kind of a node. -/
inductive Tag where
  | null
  | truth
  | integer
  | float
  | moment
  | text
  | bytes
  | sequence
  | mapping
  /-- The keys of a mapping, without what they lead to. -/
  | set
  /-- A sequence of mappings with one entry each, read as pairs. -/
  | pairs
  /-- A key whose value holds more entries. -/
  | merge
  /-- A key whose value stands for the whole mapping. -/
  | standIn
  /-- A kind that is not known. -/
  | unknown
  deriving Repr, DecidableEq

namespace Tag

/-- What the full names of the known kinds begin with. -/
def common : String := "tag:yaml.org,2002:"

/-- The kind of a full name. -/
def ofName (name : String) : Tag :=
  if ! name.startsWith common then .unknown
  else match (name.drop common.length).toString with
    | "null" => .null
    | "bool" => .truth
    | "int" => .integer
    | "float" => .float
    | "timestamp" => .moment
    | "str" => .text
    | "binary" => .bytes
    | "seq" => .sequence
    | "map" => .mapping
    | "set" => .set
    | "omap" | "pairs" => .pairs
    | _ => .unknown

/-! ## Numbers -/

/-- A digit or an underscore. -/
def isDigitOrGap (c : Char) : Bool := c.isDigit || c == '_'

/-- Drops a sign. -/
def unsigned : List Char → List Char
  | '-' :: rest | '+' :: rest => rest
  | cs => cs

/-- Whether characters are some, and all pass a test. -/
def someOf (test : Char → Bool) (cs : List Char) : Bool := ! cs.isEmpty && cs.all test

/-- A part after a colon, which counts up to sixty. -/
def isSixtieth : List Char → Bool
  | [a] => a.isDigit
  | [a, b] => '0' ≤ a && a ≤ '5' && b.isDigit
  | _ => false

/-- The parts between colons. -/
def colonParts (cs : List Char) : List (List Char) :=
  match cs with
  | [] => [[]]
  | ':' :: rest => [] :: colonParts rest
  | c :: rest =>
    match colonParts rest with
    | [] => [[c]]
    | part :: parts => (c :: part) :: parts

/-- Whether characters begin with a digit and go on with digits and underscores. -/
def isDigits : List Char → Bool
  | c :: rest => c.isDigit && rest.all isDigitOrGap
  | [] => false

/-- Whether characters are parts of sixty, the first of which passes a test. -/
def isSixties (first : List Char → Bool) (cs : List Char) : Bool :=
  match colonParts cs with
  | part :: parts@(_ :: _) => first part && parts.all isSixtieth
  | _ => false

/-- An integer in base two, eight, ten or sixteen, or in parts of sixty. -/
def isInteger (cs : List Char) : Bool :=
  let fromOne : List Char → Bool := fun cs => isDigits cs && cs.head? != some '0'
  match unsigned cs with
  | ['0'] => true
  | '0' :: 'b' :: rest => someOf (fun c => c == '0' || c == '1' || c == '_') rest
  | '0' :: 'x' :: rest =>
    someOf (fun c => isDigitOrGap c || ('a' ≤ c && c ≤ 'f') || ('A' ≤ c && c ≤ 'F')) rest
  | '0' :: rest => someOf (fun c => ('0' ≤ c && c ≤ '7') || c == '_') rest
  | cs => fromOne cs || isSixties fromOne cs

/-- Nothing, or an exponent with a sign. -/
def isExponent : List Char → Bool
  | [] => true
  | e :: s :: digits =>
    (e == 'e' || e == 'E') && (s == '-' || s == '+') && someOf Char.isDigit digits
  | _ => false

/-- A float: it has a point. -/
def isFloat (cs : List Char) : Bool :=
  let body := unsigned cs
  let whole := body.takeWhile (· != '.')
  match body.dropWhile (· != '.') with
  | '.' :: after =>
    if whole.isEmpty then
      (["inf", "Inf", "INF"].map String.toList).contains after
        || (body.length == cs.length
          && ((["nan", "NaN", "NAN"].map String.toList).contains after
            || (isDigits (after.takeWhile isDigitOrGap)
              && isExponent (after.dropWhile isDigitOrGap))))
    else
      (isDigits whole && isExponent (after.dropWhile isDigitOrGap))
        || (isSixties isDigits whole && after.all isDigitOrGap)
  | _ => false

/-! ## Dates -/

/-- The number that digits write. -/
def digitsValue (digits : List Char) : Nat :=
  digits.foldl (fun n c => 10 * n + (c.toNat - '0'.toNat)) 0

/-- Between `least` and `most` digits, with their number. -/
def countedDigits? (least most : Nat) (cs : List Char) : Option (Nat × List Char) :=
  let digits := (cs.take most).takeWhile Char.isDigit
  if digits.length < least then none
  else some (digitsValue digits, cs.drop digits.length)

/-- The first six digits of a fraction, as if it had as many. -/
def microseconds (digits : List Char) : Nat :=
  digitsValue ((digits ++ List.replicate 6 '0').take 6)

/-- Drops one character that has to be there. -/
def past? (c : Char) : List Char → Option (List Char)
  | d :: rest => if c == d then some rest else none
  | [] => none

/-- A blank inside a line. -/
def isBlank (c : Char) : Bool := c == ' ' || c == '\t'

/-- Reads how many minutes a clock is ahead; it need not be said. -/
def readOffset? (cs : List Char) : Option (Option Int) := do
  match cs.dropWhile isBlank with
  | [] => if cs.isEmpty then some none else none
  | ['Z'] => some (some 0)
  | sign :: rest =>
    if sign ≠ '-' ∧ sign ≠ '+' then none
    else
      let (hours, rest) ← countedDigits? 1 2 rest
      let minutes ← match rest with
        | [] => some 0
        | ':' :: rest => do
          let (minutes, rest) ← countedDigits? 2 2 rest
          if rest.isEmpty then some minutes else none
        | _ => none
      let ahead : Int := 60 * hours + minutes
      some (some (if sign = '-' then -ahead else ahead))

/-- Reads the time of day. -/
def readClock? (cs : List Char) : Option Clock := do
  let (hour, rest) ← countedDigits? 1 2 cs
  let (minute, rest) ← countedDigits? 2 2 (← past? ':' rest)
  let (second, rest) ← countedDigits? 2 2 (← past? ':' rest)
  let (fraction, rest) := match rest with
    | '.' :: rest => rest.span Char.isDigit
    | rest => ([], rest)
  let ahead ← readOffset? rest
  some { hour, minute, second, microsecond := microseconds fraction, ahead }

/-- Reads a date, with or without the time of day. -/
def readMoment? (cs : List Char) : Option Moment := do
  let (year, rest) ← countedDigits? 4 4 cs
  let (month, rest) ← countedDigits? 1 2 (← past? '-' rest)
  let (day, rest) ← countedDigits? 1 2 (← past? '-' rest)
  match rest with
  | [] => some ⟨year, month, day, none⟩
  | c :: more =>
    let clock ←
      if c == 'T' || c == 't' then readClock? more
      else if isBlank c then readClock? (rest.dropWhile isBlank)
      else none
    some ⟨year, month, day, some clock⟩

/-- Whether characters look like a date: one without the time of day has all its digits. -/
def isMoment (cs : List Char) : Bool :=
  (readMoment? cs).any fun m => m.clock.isSome || cs.length == 10

/-! ## Plain scalars -/

/-- The words for truth values, each in three spellings. -/
def truthWords : List String :=
  ["yes", "Yes", "YES", "no", "No", "NO", "true", "True", "TRUE", "false", "False", "FALSE",
    "on", "On", "ON", "off", "Off", "OFF"]

/-- The words for nothing. -/
def nullWords : List String := ["", "~", "null", "Null", "NULL"]

/-- The kind that a plain scalar looks like; a line break at its end does not count. -/
def ofPlain (text : String) : Tag :=
  let cs := text.toList
  let cs := if 1 < cs.length && cs.getLast? == some '\n' then cs.dropLast else cs
  let word := String.ofList cs
  if truthWords.contains word then .truth
  else if isFloat cs then .float
  else if isInteger cs then .integer
  else if word == "<<" then .merge
  else if nullWords.contains word then .null
  else if isMoment cs then .moment
  else if word == "=" then .standIn
  else if ["!", "&", "*"].contains word then .unknown
  else .text

end Tag

end SnippetRunner.Document.Yaml
