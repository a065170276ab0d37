import SnippetRunner.Evaluation.Conversion
import SnippetRunner.Evaluation.Sorting

/-!
# Methods of rows

Lists, tuples, ranges and slices. A list that is being sorted is empty for everybody else until
the sort is done.
-/

namespace SnippetRunner.Evaluation

/-! ## Searching -/

/-- The place of a value in a row. -/
def placeAmong (items : List Value) (v : Value) : Native (Option Nat) := do
  let found ← items.zipIdx.findM? fun (item, _) => same item v
  return found.map (·.2)

/-- The place of a value in a part of a row that is given like a slice. -/
def placeWithin (items : List Value) (v : Value) (bounds : List Value) : Native (Option Nat) := do
  let (start, part) ← window items bounds
  return (← placeAmong part v).map (start + ·)

/-- How often a value occurs in a row. -/
def countIn (items : List Value) (v : Value) : Native Nat := do
  return (← items.filterM fun item => same item v).length

/-! ## Lists -/

/-- Changes the list at an address. -/
def modifyList (address : Nat) (f : Array Value → Array Value) : Native Unit :=
  Native.modifyHeap fun h => h.modify address fun
    | .list items => .list (f items)
    | other => other

/-- A row without the item at a place. -/
def without (i : Nat) (items : Array Value) : Array Value :=
  (items.toList.take i ++ items.toList.drop (i + 1)).toArray

/-- Whether a sort is to be turned around. -/
def orderArgument (keywords : Table) : Native Bool := do
  return (← wordArgument ((keywords.get? "reverse").getD (.bool false))) != 0

/-- Sorts the list at an address. Whatever is put into it in the meantime is lost, and told of. -/
def sortList (address : Nat) (keywords : Table) : Native Unit := do
  let reverse ← orderArgument keywords
  let current := ((← Native.heap).list? (.ref address)).getD #[]
  let saved ← Native.askObject (.list current)
  let items := ((← Native.heap).list? (.ref saved)).getD #[]
  Native.once (modifyList address fun _ => #[])
  let sorted ← try sortedBy ((keywords.get? "key").getD .none) reverse items.toList catch
    | .fail error fresh => do
      modifyList address fun _ => items
      throw (.fail error fresh)
    | halt => throw halt
  let left := ((← Native.heap).list? (.ref address)).getD #[]
  modifyList address fun _ => sorted.toArray
  if ! left.isEmpty then Native.valueError "list modified during sort"

/-- Takes an item out of the list at an address. -/
def popFrom (address : Nat) (args : List Value) : Native Value := do
  let n ← sizeArgument (args.headD (.int (-1)))
  match ((← Native.heap).list? (.ref address)).map fun items =>
    (items.size, placeOf? n items.size, (placeOf? n items.size).bind (items[·]?)) with
  | some (size, some i, some item) =>
    modifyList address fun items => if i + 1 = size then items.pop else without i items
    return item
  | some (0, _, _) => Native.fail "IndexError" "pop from empty list"
  | _ => Native.fail "IndexError" "pop index out of range"

/-- A method of the list at an address. -/
def listMethod (address : Nat) (name : String) (args : List Value) (keywords : Table) :
    Native Value := do
  let items : Native (List Value) :=
    return (((← Native.heap).list? (.ref address)).map Array.toList).getD []
  let change (f : Array Value → Array Value) : Native Value := do
    modifyList address f
    return .none
  match name, args with
  | "append", [v] => change (·.push v)
  | "extend", [more] =>
    appendTo address more
    return .none
  | "insert", [place, v] =>
    let n ← sizeArgument place
    change fun items =>
      let i := (if n < 0 then max 0 (n + items.size) else min n items.size).toNat
      (items.toList.take i ++ [v] ++ items.toList.drop i).toArray
  | "remove", [v] =>
    match ← placeAmong (← items) v with
    | some i => change (without i)
    | none => Native.valueError "list.remove(x): x not in list"
  | "pop", _ => popFrom address args
  | "clear", _ => change fun _ => #[]
  | "index", v :: bounds =>
    match ← placeWithin (← items) v bounds with
    | some i => return .int i
    | none => Native.valueError s!"{← inspect v} is not in list"
  | "count", [v] => return .int (← countIn (← items) v)
  | "sort", _ =>
    sortList address keywords
    return .none
  | "reverse", _ => change Array.reverse
  | "copy", _ => newList (← items)
  | _, _ => Native.unavailable name

/-! ## Tuples, ranges and slices -/

/-- A method of a tuple. -/
def tupleMethod (items : List Value) (name : String) (args : List Value) : Native Value := do
  match name, args with
  | "count", [v] => return .int (← countIn items v)
  | "index", v :: bounds =>
    match ← placeWithin items v bounds with
    | some i => return .int i
    | none => Native.valueError "tuple.index(x): x not in tuple"
  | _, _ => Native.unavailable name

/-- A method of a range. An integer is found by reckoning, anything else by looking. -/
def rangeMethod (start stop step : Int) (name : String) (args : List Value) : Native Value := do
  let v := args.headD .none
  let place : Option Nat ← match v, v.int? with
    | .int _, some n | .bool _, some n =>
      let held ← coreContains? (.range start stop step) v
      pure (if held == some true then some ((n - start).fdiv step).toNat else none)
    | _, _ => placeAmong (← rangeItems start stop step) v
  match name, place, v.int? with
  | "count", found, _ => return .int (if found.isSome then 1 else 0)
  | _, some i, _ => return .int i
  | _, none, some _ => Native.valueError s!"{← inspect v} is not in range"
  | _, none, none => Native.valueError "sequence.index(x): x not in sequence"

/-- The places that a slice picks from a row of a given length, as a range would tell them. -/
def sliceIndices (lower upper step length : Value) : Native Value := do
  let n ← intArgument length
  if n < 0 then Native.valueError "length should not be negative"
  let (first, stop, pace) ← sliceRange lower upper step n.toNat
  return .tuple [.int first, .int stop, .int pace]

end SnippetRunner.Evaluation
