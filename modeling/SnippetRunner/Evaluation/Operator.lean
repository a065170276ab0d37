import SnippetRunner.Evaluation.Arithmetic

/-!
# Operators

What the operators do with texts, rows, sets and mappings, which class is asked about two values,
and what is said when a pair of values has no meaning for them.
-/

namespace SnippetRunner.Evaluation

open SnippetRunner.Snippet

/-! ## Rows -/

/-- Makes sure that there is room, and time, for so many items. -/
def checkRoom (size : Nat) : Native Unit := do
  if roomLimit < size then Native.failWith "MemoryError" []
  if itemLimit < size then Native.endless

/-- How often a row is repeated; a negative number of times is none. -/
def repetitions (n : Int) : Native Nat :=
  if isSize n then return n.toNat
  else Native.fail "OverflowError" "cannot fit 'int' into an index-sized integer"

/-- A row repeated. `noun` is what is told to be too long when no row has so many items. -/
def repeatedRow {α : Type} (noun : Option String) (xs : List α) (n : Int) : Native (List α) := do
  let times ← repetitions n
  if xs.isEmpty then return []
  match noun with
  | some noun =>
    if sizeLimit < xs.length * times then Native.fail "OverflowError" s!"repeated {noun} too long"
  | none => pure ()
  checkRoom (xs.length * times)
  return (List.replicate times xs).flatten

/-- A value repeated, if it is a row of items. -/
def repeated? (v : Value) (n : Int) : Native (Option Value) := do
  let h ← Native.heap
  match h.core v with
  | .text s =>
    return some (.text (String.ofList (← repeatedRow (some "string is") s.toList n)))
  | .bytes bs => return some (← bytesLike v (← repeatedRow (some "bytes are") bs n))
  | .tuple items => return some (.tuple (← repeatedRow none items n))
  | _ =>
    match h.list? v with
    | some items =>
      return some (← Native.allocate (.list (← repeatedRow none items.toList n).toArray))
    | none => return none

/-- Whether a value is a row of items. -/
def Heap.isRow (h : Heap) (v : Value) : Bool :=
  match h.core v with
  | .text _ => true
  | .bytes _ => true
  | .tuple _ => true
  | _ => (h.list? v).isSome

/-! ## Mappings and sets -/

/-- The key and the value of an entry that is given as a row. -/
def pairOf (index : Nat) (pair : Value) : Native (Value × Value) := do
  if ! (← Native.heap).isIterable pair then
    Native.typeError s!"cannot convert dictionary update sequence element #{index} to a sequence"
  match ← itemsOf pair with
  | [k, v] => return (k, v)
  | items =>
    Native.valueError
      s!"dictionary update sequence element #{index} has length {items.length}; 2 is required"

/-- Puts the entries that a value gives into the mapping at an address: those of a mapping, what
stands under the keys that a value tells, or pairs. -/
def mergeInto (address : Nat) (v : Value) : Native Unit := do
  let h ← Native.heap
  let current := (h.mapping? (.ref address)).getD {}
  let set (t : Mapping) : Native Unit :=
    Native.modifyHeap fun h => h.setMapping address t
  match h.mapping? v, h.special? v "keys", h.special? v "__getitem__" with
  | some more, none, _ => set (← current.overlaid more)
  | _, some keys, some item =>
    let names ← itemsOf (← askMethod v keys [])
    let entries ← names.mapM fun k => return (k, ← askMethod v item [k])
    set (← current.withEntries entries)
  | _, _, _ =>
    match ← heldItems? v with
    | some items =>
      let entries ← items.zipIdx.mapM fun (pair, i) => pairOf i pair
      set (← current.withEntries entries)
    | none =>
      let _ ← Native.askValue (.walk .gather (← iteratorOf v) (.tuple [.ref address, .int 0]))
      return

/-- Puts items into the set at an address. -/
def insertInto (address : Nat) (v : Value) : Native Unit := do
  let h ← Native.heap
  match h.get? address with
  | some (.set frozen keys) =>
    let set (keys : KeySet) : Native Unit :=
      Native.modifyHeap fun h => h.set address (.set frozen keys)
    match h.set? v, h.mapping? v with
    | some more, _ => set (← keys.union more same)
    | none, some more =>
      set (← more.entries.foldlM (fun s e => s.insert (same · e.key) e.hash e.key)
        (keys.reserve more.size))
    | none, none =>
      match ← heldItems? v with
      | some items => set (← keys.withKeys items)
      | none =>
        let _ ← Native.askValue (.walk .gather (← iteratorOf v) (.ref address))
        return
  | _ => return

/-- Puts items at the end of the list at an address. -/
def appendTo (address : Nat) (v : Value) : Native Unit := do
  let held ← match v with
    | .range start stop step => do pure (some (← rangeItems start stop step))
    | _ => heldItems? v
  match held with
  | some items =>
    Native.modifyHeap fun h => h.modify address fun
      | .list row => .list (row ++ items.toArray)
      | other => other
  | none =>
    let _ ← Native.askValue (.walk .gather (← iteratorOf v) (.ref address))
    return

/-- The keys of a value as a set. -/
def keySetOf (v : Value) : Native KeySet := do
  match (← Native.heap).set? v with
  | some keys => return keys
  | none => KeySet.withKeys {} (← itemsOf v)

/-- An operator on two sets. -/
def setBinary (op : BinaryOp) (frozen : Bool) (s t : KeySet) : Native Value := do
  let made (keys : KeySet) : Native Value := Native.allocate (.set frozen keys)
  match op with
  | .bitOr => made (← (← s.copied).union t same)
  | .bitAnd => made (← s.intersection t same)
  | .sub => made (← s.difference t same)
  | .bitXor => made (← (← t.copied).toggle s same)
  | _ => return .notImplemented

/-- The keys of a view, if it can be treated as a set. -/
def Heap.viewKeys? (h : Heap) (v : Value) : Option (List Value) :=
  match v with
  | .ref address =>
    match h.get? address with
    | some (.view .keys mapping) => some (h.viewed .keys mapping)
    | some (.view .items mapping) => some (h.viewed .items mapping)
    | _ => none
  | _ => none

/-- An operator on a view and another value, which gives a set. -/
def viewBinary (op : BinaryOp) (v w : Value) : Native Value := do
  let known := op == .bitOr || op == .bitAnd || op == .sub || op == .bitXor
  if ! known || ! (← Native.heap).isIterable w then return .notImplemented
  else setBinary op false (← keySetOf v) (← keySetOf w)

/-! ## The choice of a meaning -/

/-- The method names of an operator: its own, that of the other side, and the one that changes
its first value. -/
def operatorName : BinaryOp → String
  | .add => "add" | .sub => "sub" | .mul => "mul" | .matMul => "matmul" | .div => "truediv"
  | .floorDiv => "floordiv" | .mod => "mod" | .pow => "pow" | .leftShift => "lshift"
  | .rightShift => "rshift" | .bitOr => "or" | .bitXor => "xor" | .bitAnd => "and"

/-- The complaint about an operator that has no meaning for two values. -/
def operatorFault {α : Type} (op : BinaryOp) (augmented : Bool) (v w : Value) : Native α := do
  let h ← Native.heap
  let symbol :=
    if augmented then op.symbol ++ "=" else if op == .pow then "** or pow()" else op.symbol
  Native.typeError
    s!"unsupported operand type(s) for {symbol}: '{h.typeName v}' and '{h.typeName w}'"

/-- The types that a value stands for in a union. -/
def Heap.unionKinds? (h : Heap) (v : Value) : Option (List Value) :=
  match v with
  | .none => some [.type "NoneType"]
  | .ref address =>
    match h.get? address with
    | some (.union kinds) => some kinds
    | some (.generic _ _) => some [v]
    | _ => if h.isKind v then some [v] else none
  | _ => if h.isKind v then some [v] else none

/-- A union of types, each once. -/
def unionOf (kinds : List Value) : Native Value := do
  let distinct ← kinds.foldlM (fun seen kind => do
    if ← seen.anyM (same kind) then return seen else return seen ++ [kind]) []
  match distinct with
  | [kind] => return kind
  | _ => Native.allocate (.union distinct)

/-- An operator on two values of known types; not implemented if it has no meaning for them. -/
def coreBinary (op : BinaryOp) (v w : Value) : Native Value := do
  match ← numberBinary op v w with
  | .notImplemented =>
    let h ← Native.heap
    match op, identical v .none && identical w .none, h.unionKinds? v, h.unionKinds? w with
    | .bitOr, false, some kinds, some more => unionOf (kinds ++ more)
    | _, _, _, _ =>
      match h.set? v, h.set? w with
      | some s, some t => setBinary op (h.typeName v == "frozenset") s t
      | _, _ =>
        match op, h.mapping? v, h.mapping? w with
        | .bitOr, some s, some t => Native.allocate (.mapping (← s.rewritten.overlaid t))
        | _, _, _ =>
          if (h.viewKeys? v).isSome || (h.viewKeys? w).isSome then viewBinary op v w
          else return .notImplemented
  | answer => return answer

/-- What an operator does with rows when no type knows better. -/
def rowBinary (op : BinaryOp) (augmented : Bool) (v w : Value) : Native Value := do
  let h ← Native.heap
  match op with
  | .add =>
    match h.core v, h.core w with
    | .text s, .text t => return .text (s ++ t)
    | .text _, _ =>
      Native.typeError s!"can only concatenate str (not \"{h.typeName w}\") to str"
    | .bytes s, .bytes t => bytesLike v (s ++ t)
    | .bytes _, _ => Native.typeError s!"can't concat {h.typeName w} to {h.typeName v}"
    | .tuple xs, .tuple ys => return .tuple (xs ++ ys)
    | .tuple _, _ =>
      Native.typeError s!"can only concatenate tuple (not \"{h.typeName w}\") to tuple"
    | _, _ =>
      match h.list? v, h.list? w with
      | some xs, some ys => Native.allocate (.list (xs ++ ys))
      | some _, none =>
        Native.typeError s!"can only concatenate list (not \"{h.typeName w}\") to list"
      | none, _ => operatorFault op augmented v w
  | .mul =>
    if h.isRow v then
      match ← indexOf? w with
      | some n => return (← repeated? v n).getD .none
      | none =>
        Native.typeError s!"can't multiply sequence by non-int of type '{h.typeName w}'"
    else if h.isRow w && ! (augmented && h.isIterable v) then
      match ← indexOf? v with
      | some n => return (← repeated? w n).getD .none
      | none =>
        Native.typeError s!"can't multiply sequence by non-int of type '{h.typeName v}'"
    else operatorFault op augmented v w
  | _ => operatorFault op augmented v w

/-- What two values say about an operator: the first one by a method, or as a value of a known type,
the second one by the method for the other side. The second one is asked first if its class inherits
from that of the first one and has a say of its own, and else afterwards if it is another one. -/
def askBoth (name reflected : String) (core : Native Value) (v w : Value) : Native Value := do
  let h ← Native.heap
  let (kind, other) := (h.typeOf v, h.typeOf w)
  let alike := Heap.sameKind kind other
  let own : Native Value := match h.special? v name with
    | some method => askMethod v method [w]
    | none => core
  let theirs : Native Value := match h.special? w reflected with
    | some method => askMethod w method [v]
    | none => return .notImplemented
  let early := ! alike && h.inherits other kind && match h.special? w reflected with
    | some method => ! ((h.special? v reflected).any (identical method))
    | none => false
  if early then
    match ← theirs with
    | .notImplemented => own
    | answer => return answer
  else
    match ← own with
    | .notImplemented => if alike then return .notImplemented else theirs
    | answer => return answer

/-- What the classes of two values say about an operator. -/
def classBinary (op : BinaryOp) (v w : Value) : Native Value := do
  let h ← Native.heap
  let name := operatorName op
  askBoth s!"__{name}__" s!"__r{name}__" (coreBinary op (h.core v) (h.core w)) v w

/-- What an operator makes of two values; not implemented if no type knows, unless rows do. -/
def triedBinary (op : BinaryOp) (v w : Value) : Native Value := do
  let h ← Native.heap
  if h.isInstance v || h.isInstance w then classBinary op v w else coreBinary op v w

/-- An operator on two values. -/
def binary (op : BinaryOp) (augmented : Bool) (v w : Value) : Native Value := do
  match ← triedBinary op v w with
  | .notImplemented => rowBinary op augmented v w
  | answer => return answer

/-- An operator that changes its first value in its place; not implemented if it cannot be
changed so. -/
def changed (op : BinaryOp) (v w : Value) : Native Value := do
  let h ← Native.heap
  match h.buffer? v, op with
  | some (address, bs), .add =>
    match h.core w with
    | .bytes more => Native.modifyHeap fun h => h.set address (.buffer (bs ++ more))
    | _ => Native.typeError s!"can't concat {h.typeName w} to {h.typeName v}"
    return v
  | some (address, bs), .mul =>
    match ← indexOf? w with
    | some n =>
      let row ← repeatedRow none bs n
      Native.modifyHeap fun h => h.set address (.buffer row)
      return v
    | none => return .notImplemented
  | _, _ => pure ()
  match h.core v with
  | .ref address =>
    match op, h.get? address with
    | .add, some (.list _) =>
      appendTo address w
      return v
    | .mul, some (.list items) =>
      match ← indexOf? w with
      | some n =>
        let row ← repeatedRow none items.toList n
        Native.modifyHeap fun h => h.set address (.list row.toArray)
        return v
      | none => return .notImplemented
    | .bitOr, some (.mapping _) =>
      mergeInto address w
      return v
    | _, some (.set false keys) =>
      match h.set? w with
      | none => return .notImplemented
      | some more =>
        let result : Option KeySet ← match op with
          | .bitOr => pure (some (← keys.union more same))
          | .bitAnd => pure (some (← keys.intersection more same))
          | .sub => pure (some (← keys.without more.keys same))
          | .bitXor => pure (some (← keys.toggle more same))
          | _ => pure none
        match result with
        | none => return .notImplemented
        | some keys =>
          Native.modifyHeap fun h => h.set address (.set false keys)
          return v
    | _, _ => return .notImplemented
  | _ => return .notImplemented

/-- An operator that changes its first value if that is an object. -/
def augmented (op : BinaryOp) (v w : Value) : Native Value := do
  let answer ← match (← Native.heap).special? v s!"__i{operatorName op}__" with
    | some method => askMethod v method [w]
    | none => changed op v w
  match answer with
  | .notImplemented => binary op true v w
  | answer => return answer

/-- The complaint about a sign that has no meaning for a value. -/
def signFault {α : Type} (symbol : String) (v : Value) : Native α := do
  Native.typeError s!"bad operand type for unary {symbol}: '{(← Native.heap).typeName v}'"

/-- A sign before a number, if it has a meaning there. -/
def signed? (op : UnaryOp) (v : Value) : Option Value :=
  match op, v, v.numeric? with
  | .plus, _, some (.int n) => some (.int n)
  | .plus, _, some (.float _) => some v
  | .plus, .complex _ _, _ => some v
  | .minus, _, some (.int n) => some (.int (-n))
  | .minus, _, some (.float x) => some (.float (-x))
  | .minus, .complex re im, _ => some (.complex (-re) (-im))
  | .invert, _, some (.int n) => some (.int (-n - 1))
  | _, _, _ => none

/-- A sign before a value. -/
def unary (op : UnaryOp) (v : Value) : Native Value := do
  let h ← Native.heap
  let ask (symbol name : String) : Native Value := do
    match h.special? v name, signed? op (h.core v) with
    | some method, _ => askMethod v method []
    | none, some w => return w
    | none, none => signFault symbol v
  match op with
  | .not => return .bool (! (← truthOf v))
  | .plus => ask "+" "__pos__"
  | .minus => ask "-" "__neg__"
  | .invert => ask "~" "__invert__"

/-- A comparison of two values. -/
def comparison (op : CompareOp) (v w : Value) : Native Value := do
  match op with
  | .same => return .bool (identical v w)
  | .notSame => return .bool (! identical v w)
  | .isIn => return .bool (← contains w v)
  | .isNotIn => return .bool (! (← contains w v))
  | _ => compareValues op v w

end SnippetRunner.Evaluation
