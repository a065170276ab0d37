import SnippetRunner.Evaluation.Hash

/-!
# What operations cost

A snippet may take so many steps. An operation that goes through much data, or makes much, counts
as several of them: the more data there is, the longer it takes. Operations that only find or
replace a part cost no more than a step.
-/

namespace SnippetRunner.Evaluation

open SnippetRunner.Snippet

namespace Cost

/-- How much a value holds: its items, or what its digits or characters take up. -/
def bulk (h : Heap) : Value → Nat
  | .int n => n.natAbs.log2 / 16
  | .text s => s.utf8ByteSize / 16
  | .bytes bs => bs.length
  | .tuple items => items.length
  | .ref address =>
    match h.get? address with
    | some (.list items) => items.size
    | some (.mapping entries) => entries.rows.size
    | some (.set _ keys) => keys.slots.size
    | _ => 0
  | _ => 0

/-- A number times itself. -/
def square (n : Nat) : Nat := n * n

/-- The cost of all values of a list. -/
def total (cost : Value → Nat) (vs : List Value) : Nat := vs.foldl (fun n v => n + cost v) 0

/-- The cost of making a value. That of a large one grows faster than its size, so that no snippet
makes values without end. -/
def making (h : Heap) (v : Value) : Nat :=
  let size := bulk h v
  size / 2 + square (size / 1024)

/-- The cost of looking through a value. That of a number grows with the square of its length, up
to the length at which it has too many digits to be written. -/
def reading (h : Heap) : Value → Nat
  | .text s => s.utf8ByteSize / 3
  | .bytes bs => bs.length / 16
  | .int n =>
    let size := n.natAbs.log2 / 16
    size / 4 + square (min size 1024) / 16
  | v => bulk h v

/-- The cost of looking through several values. -/
def readingAll (h : Heap) (vs : List Value) : Nat := total (reading h) vs

/-- The cost of going through the numbers of ranges. -/
def counting (vs : List Value) : Nat :=
  vs |> total fun
    | .range start stop step => rangeSize start stop step
    | _ => 0

/-- The cost of writing the digits of integers. -/
def digits (vs : List Value) : Nat :=
  vs |> total fun
    | .int n => square (min (n.natAbs.log2 / 16) 1024) / 16
    | _ => 0

/-- The cost of joining two texts. -/
def joining (s t : String) : Nat :=
  let size := s.utf8ByteSize + t.utf8ByteSize
  size / 1024 + square (size / 16384)

/-- The cost of raising an error. -/
def ofFailing : Nat := 24

/-- Functions that do not look through their arguments. -/
def lightFunctions : List String :=
  ["len", "isinstance", "issubclass", "id", "callable", "iter", "next", "range", "enumerate",
    "zip", "map", "filter", "type", "getattr", "hasattr", "setattr", "delattr", "super", "bool",
    "slice", "property", "staticmethod", "classmethod", "object", "reversed"]

/-- Methods that do not look through what they belong to, nor through their arguments. -/
def lightMethods : List String :=
  ["append", "get", "add", "discard", "setdefault", "keys", "values", "items", "clear"]

/-- Methods that move the items of what they belong to. -/
def movingMethods : List String := ["insert", "pop", "popitem", "reverse"]

/-- Methods that look through their arguments only. -/
def addingMethods : List String := ["extend", "update"]

/-- Functions that tell something about a value, mostly as a text. -/
def tellingFunctions : List String := ["str", "repr", "ascii", "format", "hash"]

/-- The cost of a call of a method that has made a value. -/
def ofMethod (h : Heap) (self : Value) (name : String) (args : List Value) (made : Value) : Nat :=
  let own := reading h self
  let whole := own + readingAll h args + making h made
  match self with
  | .ref _ =>
    if whole = 0 || lightMethods.contains name || (name == "pop" && args.isEmpty) then 0
    else if movingMethods.contains name then own / 8
    else if addingMethods.contains name then readingAll h args
    else if name == "sort" then whole * 4
    else whole
  | _ => match made with
    | .text s => whole + s.utf8ByteSize / 3
    | _ => whole

/-- The cost of a call of a known function or type that has made a value. -/
def ofFunction (h : Heap) (name : String) (args : List Value) (made : Value) : Nat :=
  let whole := readingAll h args + counting args + making h made
  if whole = 0 || lightFunctions.contains name then 0
  else if tellingFunctions.contains name then
    readingAll h args + match made with
      | .text s => s.utf8ByteSize / 2
      | _ => 0
  else if name == "int" then whole * 12
  else if name == "sorted" then whole * 4
  else whole

/-- The cost of a comparison. -/
def ofComparison (h : Heap) (op : CompareOp) (v w : Value) : Nat :=
  match op, w with
  | .same, _ | .notSame, _ => 0
  | .isIn, .text s | .isNotIn, .text s => s.utf8ByteSize / 16
  | .isIn, .ref address | .isNotIn, .ref address =>
    match h.get? address with
    | some (.list items) => items.size
    | _ => 0
  | .isIn, .tuple items | .isNotIn, .tuple items => items.length
  | .isIn, .bytes bs | .isNotIn, .bytes bs => bs.length / 16
  | .isIn, _ | .isNotIn, _ => 0
  | _, .text _ => 0
  | _, _ => min (bulk h v) (bulk h w) / 2

/-- The cost of finding an item or a stretch of items. -/
def ofItem (h : Heap) (v index made : Value) : Nat :=
  match v, index with
  | _, .slice _ _ _ => making h made + match v with
    | .text _ => reading h v
    | _ => 0
  | .text s, _ => s.utf8ByteSize / 8
  | .bytes bs, _ => bs.length / 16
  | _, _ => 0

/-- The cost of the next item of an iterator. -/
def ofNext (h : Heap) (address : Nat) : Nat :=
  match h.get? address with
  | some (.iterator (.map _ _)) | some (.iterator (.filter _ _)) | some (.iterator (.zip _ _))
  | some (.iterator (.enumerate _ _)) => 8
  | _ => 0

/-- What an operation that has made a value costs beyond a step. -/
def ofOperation (h : Heap) (op : Operation) (args : List Value) (made : Value) : Nat :=
  match op, args with
  | .augmented .add, [.text s, .text t] | .binary .add, [.text s, .text t] => joining s t
  | .binary .mod, [.text _, .tuple items] => making h made + digits items
  | .binary .mod, [.text _, v] | .format _, [v, _] => making h made + digits [v]
  | .binary .mul, _ | .augmented .mul, _ =>
    match made with
    | .text s => making h made + s.utf8ByteSize / 3
    | _ => making h made
  | .unpack _ _, [v] => counting [v] + reading h v
  | .next, [.ref address] => ofNext h address
  | .augmented _, [.ref v, w] =>
    match made with
    | .ref m => making h (if m = v then w else made)
    | _ => making h made
  | .call _, .method self name :: more => ofMethod h self name more made
  | .call _, .builtin name :: more | .call _, .type name :: more => ofFunction h name more made
  | .call _, .own .print :: more => readingAll h more * 2
  | .call _, _ => 0
  | .visit .sum, _ =>
    match made with
    | .tuple [_, state] => making h state
    | _ => 0
  | .compare op, [v, w] => ofComparison h op v w
  | .item, [v, index] => ofItem h v index made
  | .deleteItem, _ | .setItem, _ | .attribute _, _ | .next, _ | .visit _, _ => 0
  | _, _ => making h made

end Cost

end SnippetRunner.Evaluation
