import SnippetRunner.Evaluation.Place

/-!
# Items and slices

Taking, setting and deleting what stands under an index, a slice or a key.
-/

namespace SnippetRunner.Evaluation

/-- What stands under a key of a mapping. A class that inherits from mappings may have a method for
keys that are missing. -/
def entryOf (v : Value) (t : Mapping) (key : Value) : Native Value := do
  match ← t.lookup key with
  | some e => return e.value
  | none =>
    match (← Native.heap).special? v "__missing__" with
    | some method => askMethod v method [key]
    | none => Native.failWith "KeyError" [key]

/-- A type with other types as its arguments. -/
def genericOf (origin index : Value) : Native Value := do
  match index with
  | .tuple args => Native.allocate (.generic origin args)
  | arg => Native.allocate (.generic origin [arg])

/-- What stands under an index, a slice or a key of a value of a known type; `v` is the value that
it belongs to. -/
def coreItem (v core index : Value) : Native Value := do
  let h ← Native.heap
  match core with
  | .text s =>
    rowItem s.toList.toArray index "string" "string index out of range"
      (fun c => .text c.toString) (fun cs => return .text (String.ofList cs))
  | .bytes bs =>
    let (owner, range) :=
      if (h.buffer? v).isSome then ("bytearray", "bytearray index out of range")
      else ("byte", "index out of range")
    rowItem bs.toArray index owner range (fun b => .int b.toNat) (bytesLike v)
  | .tuple items =>
    rowItem items.toArray index "tuple" "tuple index out of range" id (fun xs => return .tuple xs)
  | .range start stop step =>
    let size := rangeSize start stop step
    match index with
    | .slice lower upper pace =>
      let (first, stop, pace) ← sliceRange lower upper pace size
      return .range (start + step * first) (start + step * stop) (step * pace)
    | _ =>
      match ← indexOf? index with
      | some n =>
        match placeOf? n size with
        | some i => return .int (start + step * i)
        | none => Native.fail "IndexError" "range object index out of range"
      | none =>
        Native.typeError s!"range indices must be integers or slices, not {h.typeName index}"
  | .type kind =>
    if kind == "type" || KnownType.has kind "__class_getitem__" then genericOf v index
    else Native.typeError s!"type '{kind}' is not subscriptable"
  | _ =>
    match h.list? core, h.mapping? core with
    | some items, _ =>
      rowItem items index "list" "list index out of range" id
        (fun xs => Native.allocate (.list xs.toArray))
    | none, some t => entryOf v t index
    | none, none =>
      match h.class? v with
      | some c =>
        match h.classMember? v "__class_getitem__" with
        | some (.ref address) =>
          match h.get? address with
          | some (.wrapped .ofClass f) => Native.askCall f [v, index]
          | _ => Native.askCall (.ref address) [v, index]
        | _ =>
          if (h.lineMember? "__class_getitem__" (h.lineage v)).isSome then genericOf v index
          else Native.typeError s!"type '{c.name}' is not subscriptable"
      | none =>
        if h.isGeneric v then Native.typeError s!"{← inspect v} is not a generic class"
        else Native.typeError s!"'{h.typeName v}' object is not subscriptable"

/-- What stands under an index, a slice or a key. -/
def itemOf (v index : Value) : Native Value := do
  let h ← Native.heap
  match h.special? v "__getitem__" with
  | some method => askMethod v method [index]
  | none => coreItem v (h.core v) index

/-- The complaint about a value whose items cannot be set. -/
def refuseSetting (v : Value) : Native Unit := do
  Native.typeError s!"'{(← Native.heap).typeName v}' object does not support item assignment"

/-- The complaint about a value whose items cannot be deleted; a row that has an item under the
index is told of in other words. -/
def refuseDeleting (v index : Value) : Native Unit := do
  let h ← Native.heap
  let held := match h.core v with
    | .text _ | .bytes _ | .tuple _ | .range _ _ _ => true
    | _ => (h.set? v).isSome
  let denial := if held && index.int?.isSome then "doesn't" else "does not"
  Native.typeError s!"'{h.typeName v}' object {denial} support item deletion"

/-- Sets the items of a list that a slice picks. -/
def setSlice (address : Nat) (lower upper step item : Value) : Native Unit := do
  if ! (← Native.heap).isIterable item then
    Native.typeError (match step with
      | .none => "can only assign an iterable"
      | _ => "must assign iterable to extended slice")
  let more ← itemsOf item
  let items := ((← Native.heap).list? (.ref address)).getD #[]
  let (first, stop, pace) ← sliceRange lower upper step items.size
  if pace = 1 then
    let before := items.toList.take first.toNat
    let after := items.toList.drop (max first stop).toNat
    Native.modifyHeap fun h => h.set address (.list (before ++ more ++ after).toArray)
  else
    let places ← slicePlaces lower upper step items.size
    if places.length != more.length then
      Native.valueError
        (s!"attempt to assign sequence of size {more.length} " ++
          s!"to extended slice of size {places.length}")
    else Native.modifyHeap fun h => h.set address (.list (replaceAt items places more))

/-- Sets what stands under an index, a slice or a key of a value of a known type; `v` is the value
that it belongs to. -/
def setCoreItem (v core index item : Value) : Native Unit := do
  let h ← Native.heap
  match h.buffer? v, core with
  | some (address, bs), _ => setBufferItem address bs index item
  | none, .ref address =>
    match h.get? address with
    | some (.list items) =>
      match index with
      | .slice lower upper step => setSlice address lower upper step item
      | _ =>
        match ← indexOf? index with
        | some n =>
          let i ← placeIn n items.size "list assignment index out of range"
          Native.modifyHeap fun h => h.modify address fun
            | .list items => .list (items.setIfInBounds i item)
            | other => other
        | none =>
          Native.typeError s!"list indices must be integers or slices, not {h.typeName index}"
    | some (.mapping _) => addEntry address index item
    | some (.names table) =>
      match index with
      | .text id => Native.modifyHeap fun h => h.set address (.names (table.put id item))
      | _ => return
    | some (.members owner false) =>
      match index with
      | .text id => Native.modifyHeap fun h => h.mapAttributes owner (·.put id item)
      | _ => return
    | _ => refuseSetting v
  | none, _ => refuseSetting v

/-- Sets what stands under an index, a slice or a key. -/
def setItem (v index item : Value) : Native Unit := do
  let h ← Native.heap
  match h.special? v "__setitem__" with
  | some method =>
    let _ ← askMethod v method [index, item]
    return
  | none => setCoreItem v (h.core v) index item

/-- Deletes what stands under an index, a slice or a key of a value of a known type; `v` is the
value that it belongs to. -/
def deleteCoreItem (v core index : Value) : Native Unit := do
  let h ← Native.heap
  match h.buffer? v, core with
  | some (address, bs), _ => deleteBufferItem address bs index
  | none, .ref address =>
    match h.get? address with
    | some (.list items) =>
      let places ← match index with
        | .slice lower upper step => slicePlaces lower upper step items.size
        | _ =>
          match ← indexOf? index with
          | some n => pure [← placeIn n items.size "list assignment index out of range"]
          | none =>
            Native.typeError s!"list indices must be integers or slices, not {h.typeName index}"
      let kept := items.toList.zipIdx.filterMap fun (item, i) =>
        if places.contains i then none else some item
      Native.modifyHeap fun h => h.set address (.list kept.toArray)
    | some (.mapping t) =>
      match (← t.locate index).2 with
      | some row =>
        Native.modifyHeap fun h => h.modify address fun
          | .mapping t => .mapping (t.removeAt row)
          | other => other
      | none => Native.failWith "KeyError" [index]
    | some (.names _) | some (.members _ false) =>
      let t := (h.mapping? core).getD {}
      match (← t.locate index).2 with
      | some row => Native.modifyHeap fun h => h.setMapping address (t.removeAt row)
      | none => Native.failWith "KeyError" [index]
    | _ => refuseDeleting v index
  | none, _ => refuseDeleting v index

/-- Deletes what stands under an index, a slice or a key. -/
def deleteItem (v index : Value) : Native Unit := do
  let h ← Native.heap
  match h.special? v "__delitem__" with
  | some method =>
    let _ ← askMethod v method [index]
    return
  | none => deleteCoreItem v (h.core v) index

/-- The number of items of a value of a known type. -/
def Heap.coreLength? (h : Heap) (v : Value) : Option Nat :=
  match v with
  | .range start stop step => some (rangeSize start stop step)
  | .ref address =>
    match h.get? address with
    | some (.list items) => some items.size
    | some (.mapping t) => some t.size
    | some (.names table) => some table.length
    | some (.members owner _) => some (h.shownAttributes owner).length
    | some (.set _ keys) => some keys.size
    | some (.view _ mapping) => (h.mapping? (.ref mapping)).map Mapping.size
    | _ => none
  | .tuple items => some items.length
  | .text s => some s.length
  | .bytes bs => some bs.length
  | _ => none

/-- The number of items of a value. -/
def lengthOf (v : Value) : Native Nat := do
  let h ← Native.heap
  match h.special? v "__len__" with
  | some method => lengthAnswer (← askMethod v method [])
  | none =>
    match h.coreLength? (h.core v) with
    | some n =>
      if sizeLimit < n then
        Native.fail "OverflowError" "Python int too large to convert to C ssize_t"
      return n
    | none => Native.typeError s!"object of type '{h.typeName v}' has no len()"

/-- An iterator through a row from its end to its start. -/
def reversedOf (v : Value) : Native Value := do
  let h ← Native.heap
  let make (it : Iterator) : Native Value := Native.allocate (.iterator it)
  let refuse : Native Value := Native.typeError s!"'{h.typeName v}' object is not reversible"
  match h.special? v "__reversed__" with
  | some .none => refuse
  | some method => askMethod v method []
  | none =>
    match h.core v with
    | .range start stop step =>
      let last := start + step * (rangeSize start stop step - 1)
      make (.range last (start - step) (-step))
    | .text s => make (.items "reversed" (s.toList.map fun c => .text c.toString).reverse)
    | .bytes bs => make (.items "reversed" (bs.map fun b => .int b.toNat).reverse)
    | .tuple items => make (.items "reversed" items.reverse)
    | .ref address =>
      match h.get? address with
      | some (.list items) => make (.listBack address items.size)
      | some (.mapping _) | some (.names _) | some (.members _ _) =>
        make (h.rowsOf .keys address true)
      | some (.view aspect mapping) => make (h.rowsOf aspect mapping true)
      | _ =>
        match h.special? v "__getitem__", h.special? v "__len__" with
        | some _, some _ => make (.indexed v (((← lengthOf v) : Int) - 1) true)
        | some _, none => Native.typeError s!"object of type '{h.typeName v}' has no len()"
        | none, _ => refuse
    | _ => refuse

end SnippetRunner.Evaluation
