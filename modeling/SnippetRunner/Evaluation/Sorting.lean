import SnippetRunner.Evaluation.Item
import SnippetRunner.Sorting

/-!
# Sorted values

A stable sort of values by their keys. Comparing two keys may ask a class of the snippet.
-/

namespace SnippetRunner.Evaluation

/-- A value with the key it is sorted by. -/
abbrev Keyed := Value × Value

/-- Whether the key of one value is less than that of another. -/
def keyLess (x y : Keyed) : Native Bool := order .less x.1 y.1

/-- What a function makes of each of some values. -/
def imagesOf (function : Value) (items : List Value) : Native (List Value) := do
  let source ← Native.askObject (.iterator (.items "list_iterator" items))
  let images ← Native.askObject (.iterator (.map function [.ref source]))
  match ← Native.askValue (.collect (.ref images)) with
  | .tuple images => return images
  | _ => return []

/-- Values sorted by a key function, or by themselves. -/
def sortedBy (key : Value) (reverse : Bool) (items : List Value) : Native (List Value) := do
  let keys ← match key with
    | .none => pure items
    | _ => imagesOf key items
  let keyed := keys.zip items
  let sorted ← Sorting.sort keyLess (if reverse then keyed.reverse else keyed)
  let values := sorted.map (·.2)
  return if reverse then values.reverse else values

/-- The better one of the best item so far and another one, with their keys. -/
def better (greatest : Bool) (best other : Keyed) : Native Keyed := do
  let wins ← order (if greatest then .greater else .less) other.1 best.1
  return if wins then other else best

/-- What a walk through an iterator makes of its state and the next item: a tuple of one is what
the walk comes to; the second one of a tuple of two is its state from then on. -/
def visit (visitor : Visitor) (state item : Value) : Native Value := do
  let more (state : Value) : Native Value := return .tuple [.none, state]
  match visitor with
  | .truth wanted =>
    if (← truthOf item) == wanted then return .tuple [.bool true] else more (.bool false)
  | .find v => if ← same item v then return .tuple [.bool true] else more (.bool false)
  | .sum => more (← binary .add false state item)
  | .best greatest key =>
    let k ← match key with
      | .none => pure item
      | _ => Native.askCall key [item]
    match state with
    | .tuple [bestKey, best] =>
      let (k, v) ← better greatest (bestKey, best) (k, item)
      more (.tuple [k, v])
    | _ => more (.tuple [k, item])
  | .gather =>
    match state with
    | .tuple [.ref address, .int i] =>
      let (k, v) ← pairOf i.toNat item
      addEntry address k v
      more (.tuple [.ref address, .int (i + 1)])
    | .ref address =>
      if (← Native.heap).typeName state == "list" then
        Native.modifyHeap fun h => h.modify address fun
          | .list row => .list (row.push item)
          | other => other
      else addKey address item
      more state
    | _ => more state

/-- The least or the greatest of some items by themselves; the first one among equals. -/
def extreme? (greatest : Bool) (items : List Value) : Native (Option Value) := do
  match items with
  | [] => return none
  | first :: rest =>
    let best ← rest.foldlM (fun best v => better greatest best (v, v)) (first, first)
    return some best.2

/-- The least or the greatest item of an iterator by a key function; the first one among equals. -/
def extremeBy? (greatest : Bool) (key iterator : Value) : Native (Option Value) := do
  match ← Native.askValue (.walk (.best greatest key) iterator (.tuple [])) with
  | .tuple [_, v] => return some v
  | _ => return none

end SnippetRunner.Evaluation
