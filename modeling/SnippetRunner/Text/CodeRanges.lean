/-!
# Sets and maps of code points

A set of characters is kept as increasing closed intervals of code points and asked by binary
search. Tables are written as words `lo` or `lo-hi` in hexadecimal. A partial map of characters to
texts is kept as increasing runs and asked in the same way.
-/

namespace SnippetRunner.Text

/-- The value of a hexadecimal digit. -/
def hexDigit? (c : Char) : Option Nat :=
  if '0' ≤ c ∧ c ≤ '9' then some (c.toNat - '0'.toNat)
  else if 'a' ≤ c ∧ c ≤ 'f' then some (c.toNat - 'a'.toNat + 10)
  else if 'A' ≤ c ∧ c ≤ 'F' then some (c.toNat - 'A'.toNat + 10)
  else none

/-- The value of a hexadecimal numeral; other characters are skipped. -/
def hexValue (cs : List Char) : Nat :=
  cs.foldl (fun n c => match hexDigit? c with
    | some d => 16 * n + d
    | none => n) 0

/-- The pieces of a list between the elements that satisfy `p`. -/
def pieces (p : Char → Bool) (cs : List Char) : List (List Char) :=
  cs.foldr (fun c acc =>
    if p c then [] :: acc
    else match acc with
      | [] => [[c]]
      | w :: rest => (c :: w) :: rest) [[]]

/-- The parts of a text between the places of a character. -/
def parts (separator : Char) (s : String) : List String :=
  (pieces (· == separator) s.toList).map String.ofList

/-- Closed intervals of code points, increasing and disjoint. -/
structure CodeRanges where
  bounds : Array (Nat × Nat)

namespace CodeRanges

/-- Reads a table of words `lo` or `lo-hi` in hexadecimal, separated by blanks. -/
def ofLines (table : List String) : CodeRanges :=
  let words := table.flatMap fun line => pieces (· == ' ') line.toList
  ⟨(words.map fun word =>
    match pieces (· == '-') word with
    | [lo] => (hexValue lo, hexValue lo)
    | lo :: hi :: _ => (hexValue lo, hexValue hi)
    | [] => (1, 0)).toArray⟩

/-- Binary search among the intervals numbered `lo` to `hi - 1`. -/
def search (bounds : Array (Nat × Nat)) (n lo hi : Nat) : Bool :=
  if lo < hi then
    let mid := (lo + hi) / 2
    match bounds[mid]? with
    | none => false
    | some (a, b) =>
      if n < a then search bounds n lo mid
      else if b < n then search bounds n (mid + 1) hi
      else true
  else false
termination_by hi - lo

/-- Whether a code point lies in one of the intervals. -/
def containsCode (r : CodeRanges) (n : Nat) : Bool :=
  search r.bounds n 0 r.bounds.size

/-- Whether a character lies in one of the intervals. -/
def contains (r : CodeRanges) (c : Char) : Bool :=
  r.containsCode c.toNat

end CodeRanges

/-- How the images of a run of characters go on. -/
inductive Course where
  /-- With each character, from code point to code point. -/
  | onward
  /-- With every second character, as those between are in no run. -/
  | alternate
  /-- Not at all: all have the same image. -/
  | still
  deriving Repr, DecidableEq

/-- Characters with images, from `lo` to `hi`; `image` is that of the first one. -/
structure CodeRun where
  lo : Nat
  hi : Nat
  course : Course
  image : List Nat

/-- A partial map of characters to texts, as runs in increasing order. -/
structure CodeRuns where
  runs : Array CodeRun

namespace CodeRuns

/-- Reads one run: `a:b`, `a-z:b` for images that go on, `a=z:b` where every second character has
one, or `a*z:b` for one image. That of a single character may be several, joined by `+`. -/
def readRun (word : List Char) : CodeRun :=
  match pieces (· == ':') word with
  | [source, target] =>
    let image := (pieces (· == '+') target).map hexValue
    match pieces (· == '-') source, pieces (· == '=') source, pieces (· == '*') source with
    | [lo, hi], _, _ => ⟨hexValue lo, hexValue hi, .onward, image⟩
    | _, [lo, hi], _ => ⟨hexValue lo, hexValue hi, .alternate, image⟩
    | _, _, [lo, hi] => ⟨hexValue lo, hexValue hi, .still, image⟩
    | _, _, _ => ⟨hexValue source, hexValue source, .onward, image⟩
  | _ => ⟨1, 0, .still, []⟩

/-- Reads a table of runs separated by blanks. -/
def ofLines (table : List String) : CodeRuns :=
  ⟨((table.flatMap fun line => pieces (· == ' ') line.toList).map readRun).toArray⟩

/-- Binary search for the run around a code point, among those numbered `lo` to `hi - 1`. -/
def find? (runs : Array CodeRun) (n lo hi : Nat) : Option CodeRun :=
  if lo < hi then
    let mid := (lo + hi) / 2
    match runs[mid]? with
    | none => none
    | some run =>
      if n < run.lo then find? runs n lo mid
      else if run.hi < n then find? runs n (mid + 1) hi
      else if run.course = .alternate ∧ (n - run.lo) % 2 = 1 then none
      else some run
  else none
termination_by hi - lo

/-- The image of a character, if it has one. -/
def image? (t : CodeRuns) (c : Char) : Option (List Char) :=
  (find? t.runs c.toNat 0 t.runs.size).map fun run =>
    match run.image, run.course with
    | image, .still => image.map Char.ofNat
    | [single], _ => [Char.ofNat (single + (c.toNat - run.lo))]
    | several, _ => several.map Char.ofNat

end CodeRuns

/-! ## Decimal digits of all scripts

Every script's decimal digits stand in a run of ten consecutive code points, so a digit's value
is its distance from the zero of its run. -/

/-- The code points of the zeros of all scripts, each followed by its nine successors. -/
def decimalZeros : CodeRanges := CodeRanges.ofLines
  ["30-39 660-669 6f0-6f9 7c0-7c9 966-96f 9e6-9ef a66-a6f ae6-aef b66-b6f be6-bef c66-c6f",
   "ce6-cef d66-d6f de6-def e50-e59 ed0-ed9 f20-f29 1040-1049 1090-1099 17e0-17e9 1810-1819",
   "1946-194f 19d0-19d9 1a80-1a89 1a90-1a99 1b50-1b59 1bb0-1bb9 1c40-1c49 1c50-1c59 a620-a629",
   "a8d0-a8d9 a900-a909 a9d0-a9d9 a9f0-a9f9 aa50-aa59 abf0-abf9 ff10-ff19 104a0-104a9",
   "10d30-10d39 11066-1106f 110f0-110f9 11136-1113f 111d0-111d9 112f0-112f9 11450-11459",
   "114d0-114d9 11650-11659 116c0-116c9 11730-11739 118e0-118e9 11950-11959 11c50-11c59",
   "11d50-11d59 11da0-11da9 16a60-16a69 16ac0-16ac9 16b50-16b59 1d7ce-1d7d7 1d7d8-1d7e1",
   "1d7e2-1d7eb 1d7ec-1d7f5 1d7f6-1d7ff 1e140-1e149 1e2f0-1e2f9 1e950-1e959 1fbf0-1fbf9"]

/-- The interval that holds a code point, among those numbered `lo` to `hi - 1`. -/
def findRange? (bounds : Array (Nat × Nat)) (n lo hi : Nat) : Option (Nat × Nat) :=
  if lo < hi then
    let mid := (lo + hi) / 2
    match bounds[mid]? with
    | none => none
    | some (a, b) =>
      if n < a then findRange? bounds n lo mid
      else if b < n then findRange? bounds n (mid + 1) hi
      else some (a, b)
  else none
termination_by hi - lo

/-- The value of a decimal digit of any script. -/
def decimalValue? (c : Char) : Option Nat :=
  (findRange? decimalZeros.bounds c.toNat 0 decimalZeros.bounds.size).map fun (first, _) =>
    c.toNat - first

end SnippetRunner.Text
