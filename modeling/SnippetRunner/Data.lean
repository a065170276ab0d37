import SnippetRunner.Data.Moment
import SnippetRunner.Number.Decimal
import SnippetRunner.Number.Shortest
import SnippetRunner.Text.Quoted

/-!
# Plain data

Values without behaviour: what a document holds, what a request carries and what a printed
argument may be. The module says how a value is shown, what counts as false, and how two values
compare.
-/

namespace SnippetRunner

/-- What a caller is told about a failure: the name of its class and its message. -/
structure Problem where
  kind : String
  message : String
  deriving Repr, DecidableEq, Inhabited

/-- A plain value. -/
inductive Data where
  | null
  | bool (b : Bool)
  | int (n : Int)
  | float (x : Float)
  | text (s : String)
  | bytes (bs : List UInt8)
  | list (items : List Data)
  | tuple (items : List Data)
  /-- Values without an order, each of them once. -/
  | set (items : List Data)
  | mapping (entries : List (Data × Data))
  /-- A date, with the time of day or without. -/
  | moment (m : Moment)
  /-- The list or mapping that this is in, some collections out, which so holds itself. -/
  | again (up : Nat) (isList : Bool)
  deriving Inhabited

namespace Data

/-- The name of a value's type. -/
def typeName : Data → String
  | .null => "NoneType"
  | .bool _ => "bool"
  | .int _ => "int"
  | .float _ => "float"
  | .text _ => "str"
  | .bytes _ => "bytes"
  | .list _ => "list"
  | .tuple _ => "tuple"
  | .set _ => "set"
  | .mapping _ => "dict"
  | .moment m => s!"datetime.{m.typeName}"
  | .again _ isList => if isList then "list" else "dict"

/-- Whether a value counts as true: not null, not zero, not empty. -/
def isTrue : Data → Bool
  | .null => false
  | .bool b => b
  | .int n => n != 0
  | .float x => x != 0.0
  | .text s => ! s.isEmpty
  | .bytes bs => ! bs.isEmpty
  | .list items => ! items.isEmpty
  | .tuple items => ! items.isEmpty
  | .set items => ! items.isEmpty
  | .mapping entries => ! entries.isEmpty
  | .moment _ => true
  | .again _ _ => true

/-- The items of a tuple in parentheses; a single one is followed by a comma. -/
def tupleText : List String → String
  | [single] => "(" ++ single ++ ",)"
  | items => "(" ++ String.intercalate ", " items ++ ")"

/-- The items of a list in brackets. -/
def listText (items : List String) : String := "[" ++ String.intercalate ", " items ++ "]"

/-- The items of a set in braces; nothing stands for an empty one but its name. -/
def setText (items : List String) : String :=
  if items.isEmpty then "set()" else "\x7b" ++ String.intercalate ", " items ++ "\x7d"

/-- The entries of a mapping in braces. -/
def mappingText (entries : List (String × String)) : String :=
  "\x7b" ++ String.intercalate ", " (entries.map fun (k, v) => k ++ ": " ++ v) ++ "\x7d"

/-- A truth value in words. -/
def boolText (b : Bool) : String := if b then "True" else "False"

mutual

/-- A value as it is written inside a list. -/
def quoted : Data → String
  | .null => "None"
  | .bool b => boolText b
  | .int n => toString n
  | .float x => Number.floatText x
  | .text s => Text.quoted s
  | .bytes bs => Text.quotedBytes bs
  | .list items => listText (quotedAll items)
  | .tuple items => tupleText (quotedAll items)
  | .set items => setText (quotedAll items)
  | .mapping entries => mappingText (quotedEntries entries)
  | .moment m => m.quoted
  | .again _ isList => if isList then "[...]" else "\x7b...\x7d"

/-- The values of a list, each as it is written inside it. -/
def quotedAll : List Data → List String
  | [] => []
  | v :: rest => quoted v :: quotedAll rest

/-- The entries of a mapping, each side as it is written inside it. -/
def quotedEntries : List (Data × Data) → List (String × String)
  | [] => []
  | (k, v) :: rest => (quoted k, quoted v) :: quotedEntries rest

end

/-- A value as it is printed: a text stands for itself, and a date is shown. -/
def shown : Data → String
  | .text s => s
  | .moment m => m.shown
  | v => quoted v

mutual

/-- Whether a value holds an integer with too many digits to be written. -/
def isTooLong : Data → Bool
  | .int n => Number.isTooLong n
  | .list items => anyTooLong items
  | .tuple items => anyTooLong items
  | .set items => anyTooLong items
  | .mapping entries => anyEntryTooLong entries
  | _ => false

/-- Whether one of some values holds an integer with too many digits. -/
def anyTooLong : List Data → Bool
  | [] => false
  | v :: rest => isTooLong v || anyTooLong rest

/-- Whether one of some entries holds an integer with too many digits. -/
def anyEntryTooLong : List (Data × Data) → Bool
  | [] => false
  | (k, v) :: rest => isTooLong k || isTooLong v || anyEntryTooLong rest

end

/-- A value as it is printed, unless that takes too many digits. -/
def print (v : Data) : Except Problem String :=
  if v.isTooLong then .error ⟨"ValueError", Number.lengthComplaint ""⟩ else .ok v.shown

/-- A value as a number. -/
inductive Numeric where
  | int (n : Int)
  | float (x : Float)

/-- The number that a value is; truth values count as zero and one. -/
def numeric? : Data → Option Numeric
  | .bool b => some (.int (if b then 1 else 0))
  | .int n => some (.int n)
  | .float x => some (.float x)
  | _ => none

/-- The order of two numbers, exact across kinds; none when one of them is not a number. -/
def Numeric.compare? : Numeric → Numeric → Option Ordering
  | .int a, .int b => some (compare a b)
  | .int a, .float y => Number.compareInt a y
  | .float x, .int b => (Number.compareInt b x).map Ordering.swap
  | .float x, .float y =>
    if x < y then some .lt else if y < x then some .gt else if x == y then some .eq else none

mutual

/-- Whether two values are equal: numbers by value, everything else by shape. -/
def same : Data → Data → Bool
  | .null, .null => true
  | .text s, .text t => s == t
  | .bytes s, .bytes t => s == t
  | .list xs, .list ys => sameAll xs ys
  | .tuple xs, .tuple ys => sameAll xs ys
  | .set xs, .set ys => xs.length == ys.length && sameItems xs ys
  | .mapping xs, .mapping ys => sameEntries xs ys
  | .moment m, .moment n => m.same n
  | .again m _, .again n _ => m == n
  | x, y =>
    match numeric? x, numeric? y with
    | some a, some b => a.compare? b == some .eq
    | _, _ => false

/-- Whether two lists of values are equal. -/
def sameAll : List Data → List Data → Bool
  | [], [] => true
  | x :: xs, y :: ys => same x y && sameAll xs ys
  | _, _ => false

/-- Whether all values of one list are in another. -/
def sameItems : List Data → List Data → Bool
  | [], _ => true
  | x :: xs, ys => (ys.any fun y => same x y) && sameItems xs ys

/-- Whether two lists of entries are equal. -/
def sameEntries : List (Data × Data) → List (Data × Data) → Bool
  | [], [] => true
  | (k, v) :: xs, (l, w) :: ys => same k l && same v w && sameEntries xs ys
  | _, _ => false

end

/-! ## Collections that hold themselves -/

mutual

/-- Puts a whole collection where a value refers to the one around it; `level` counts the
collections between the value and the place. -/
def refer (whole : Nat → Data) (level : Nat) : Data → Data
  | .again up isList => if up = level then whole level else .again up isList
  | .list items => .list (referAll whole (level + 1) items)
  | .mapping entries => .mapping (referEntries whole (level + 1) entries)
  | v => v

@[inherit_doc refer]
def referAll (whole : Nat → Data) (level : Nat) : List Data → List Data
  | [] => []
  | v :: rest => refer whole level v :: referAll whole level rest

@[inherit_doc refer]
def referEntries (whole : Nat → Data) (level : Nat) : List (Data × Data) → List (Data × Data)
  | [] => []
  | (k, v) :: rest => (k, refer whole level v) :: referEntries whole level rest

end

/-- Whether a value is a list. -/
def isList : Data → Bool
  | .list _ => true
  | _ => false

/-- A part of a collection on its own. Where it refers to the collection, that is put, which refers
to the part in turn; `place` makes the collection from what stands in the part's place. -/
def partOf (place : Data → Data) (part : Data) : Data :=
  match part with
  | .again 0 isList => place (.again 0 isList)
  | _ => refer (fun level => place (.again level part.isList)) 0 part

/-- The values of a list, each on its own; `before` are those before them. -/
def partsFrom (before : List Data) : List Data → List Data
  | [] => []
  | v :: rest =>
    partOf (fun w => .list (before.reverse ++ w :: rest)) v :: partsFrom (v :: before) rest

/-- The entries of a mapping, each value on its own; `before` are those before them. -/
def entryPartsFrom (before : List (Data × Data)) : List (Data × Data) → List (Data × Data)
  | [] => []
  | (k, v) :: rest =>
    (k, partOf (fun w => .mapping (before.reverse ++ (k, w) :: rest)) v)
      :: entryPartsFrom ((k, v) :: before) rest

/-- The entries of a mapping, each value on its own. -/
def entryParts (entries : List (Data × Data)) : List (Data × Data) := entryPartsFrom [] entries

/-- The items that a value is made of. -/
def items : Data → Except Problem (List Data)
  | .list items => .ok (partsFrom [] items)
  | .tuple items | .set items => .ok items
  | .mapping entries => .ok (entries.map (·.1))
  | .text s => .ok (s.toList.map fun c => .text (String.singleton c))
  | .bytes bs => .ok (bs.map fun b => .int b.toNat)
  | v => .error ⟨"TypeError", s!"'{v.typeName}' object is not iterable"⟩

/-- The value under a key. -/
def lookup? (entries : List (Data × Data)) (key : Data) : Option Data :=
  (entries.find? fun entry => same entry.1 key).map (·.2)

/-- Entries with a value under a key: in the key's place if it is there, else at the end. -/
def insert (entries : List (Data × Data)) (key value : Data) : List (Data × Data) :=
  if entries.any fun entry => same entry.1 key then
    entries.map fun entry => if same entry.1 key then (entry.1, value) else entry
  else entries ++ [(key, value)]

/-- The entries without a key. -/
def erase (entries : List (Data × Data)) (key : Data) : List (Data × Data) :=
  entries.filter fun entry => ! same entry.1 key

/-- Entries in order, later ones replacing earlier ones of the same key. -/
def collect (entries : List (Data × Data)) : List (Data × Data) :=
  entries.foldl (fun acc (k, v) => insert acc k v) []

/-! ## The order of values

Numbers are in order by value, texts and bytes by their characters, dates by time, rows by the
first items that differ, and sets by inclusion. Other values have no order, and none has one with a
value of another kind. -/

/-- What is told of two values without an order. -/
def orderless (symbol : String) (v w : Data) : Problem :=
  ⟨"TypeError",
    s!"'{symbol}' not supported between instances of '{v.typeName}' and '{w.typeName}'"⟩

/-- Whether two values are numbers in an order that `test` accepts. -/
def compared (symbol : String) (test : Ordering → Bool) (v w : Data) : Except Problem Bool :=
  match v.numeric?, w.numeric? with
  | some a, some b => .ok ((a.compare? b).any test)
  | _, _ => .error (orderless symbol v w)

/-- Whether a value is zero or below. -/
def notPositive (v : Data) : Except Problem Bool := compared "<=" (· != .gt) v (.int 0)

mutual

/-- Whether a value is less than another one. -/
def less : Data → Data → Except Problem Bool
  | .text s, .text t => .ok (decide (s < t))
  | .bytes s, .bytes t => .ok (decide (s < t))
  | .list xs, .list ys => lessAll xs ys
  | .tuple xs, .tuple ys => lessAll xs ys
  | .set xs, .set ys => .ok (xs.length < ys.length && sameItems xs ys)
  | .moment m, .moment n =>
    match m.compare n with
    | .ok order => .ok (order == .lt)
    | .error clash => .error ⟨"TypeError", clash.message⟩
  | v, w => compared "<" (· == .lt) v w

/-- Whether a row is less than another one, by the first items that differ. -/
def lessAll : List Data → List Data → Except Problem Bool
  | _, [] => .ok false
  | [], _ :: _ => .ok true
  | x :: xs, y :: ys => if same x y then lessAll xs ys else less x y

end

end Data

end SnippetRunner
