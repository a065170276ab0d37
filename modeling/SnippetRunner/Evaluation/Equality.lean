import SnippetRunner.Evaluation.Hash
import SnippetRunner.Evaluation.Text

/-!
# Equality and order of values

Numbers compare by value, texts by characters, sequences item by item. Classes of the snippet may
say how they compare. What is looked for among items is found where it stands itself, even if it
does not say that it equals itself. Keys of mappings and sets are looked for by their hashes and by
what is equal to them.
-/

namespace SnippetRunner.Evaluation

open SnippetRunner.Snippet

mutual

/-- Whether two values are one and the same. -/
def identical : Value → Value → Bool
  | .none, .none => true
  | .notImplemented, .notImplemented => true
  | .ellipsis, .ellipsis => true
  | .bool a, .bool b => a == b
  | .int a, .int b => a == b
  | .float x, .float y => ! x.isNaN && Number.sameFloat x y
  | .nan a, .nan b => a == b
  | .complex a b, .complex c d => Number.sameFloat a c && Number.sameFloat b d
  | .text s, .text t => s == t
  | .bytes s, .bytes t => s == t
  | .tuple xs, .tuple ys => identicalAll xs ys
  | .range a b c, .range d e f => a == d && b == e && c == f
  | .slice a b c, .slice d e f => identical a d && identical b e && identical c f
  | .type a, .type b => a == b
  | .builtin a, .builtin b => a == b
  | .own a, .own b => a == b
  | .ref a, .ref b => a == b
  | _, _ => false

/-- Whether the items of two rows are the same. -/
def identicalAll : List Value → List Value → Bool
  | [], [] => true
  | x :: xs, y :: ys => identical x y && identicalAll xs ys
  | _, _ => false

end

/-- The answer of a comparison to an order; without an order nothing holds but that two values are
not equal. -/
def orderHolds (op : CompareOp) (order : Option Ordering) : Bool :=
  match op, order with
  | .equal, some .eq => true
  | .notEqual, some .eq => false
  | .notEqual, _ => true
  | .less, some .lt => true
  | .lessEqual, some .lt => true
  | .lessEqual, some .eq => true
  | .greater, some .gt => true
  | .greaterEqual, some .gt => true
  | .greaterEqual, some .eq => true
  | _, _ => false

/-- A comparison seen from the other side. -/
def mirrored : CompareOp → CompareOp
  | .less => .greater
  | .lessEqual => .greaterEqual
  | .greater => .less
  | .greaterEqual => .lessEqual
  | op => op

/-- The name of the method for a comparison. -/
def comparisonName : CompareOp → String
  | .equal => "__eq__"
  | .notEqual => "__ne__"
  | .less => "__lt__"
  | .lessEqual => "__le__"
  | .greater => "__gt__"
  | _ => "__ge__"

/-- Whether a comparison is about equality. -/
def isEquality (op : CompareOp) : Bool := op == .equal || op == .notEqual

/-- The complaint about values that have no order. -/
def orderFault {α : Type} (op : CompareOp) (v w : Value) : Native α := do
  let h ← Native.heap
  Native.typeError
    s!"'{op.symbol}' not supported between instances of '{h.typeName v}' and '{h.typeName w}'"

/-- The comparison of two numbers, texts or byte strings. -/
def plainComparison? (op : CompareOp) (v w : Value) : Option Bool :=
  match v.numeric?, w.numeric? with
  | some a, some b => some (orderHolds op (a.compare? b))
  | _, _ =>
    match v, w with
    | .text s, .text t => some (orderHolds op (some (Text.order s t)))
    | .bytes s, .bytes t =>
      some (orderHolds op (some (compare (s.map UInt8.toNat) (t.map UInt8.toNat))))
    | _, _ => none

/-- Whether a complex number equals another number. -/
def complexEqual? (v w : Value) : Option Bool :=
  let equals (re im : Float) (n : Data.Numeric) : Bool :=
    im == 0.0 && (Data.Numeric.float re).compare? n == some .eq
  match v, w, v.numeric?, w.numeric? with
  | .complex a b, .complex c d, _, _ => some (a == c && b == d)
  | .complex a b, _, _, some n => some (equals a b n)
  | _, .complex a b, some n, _ => some (equals a b n)
  | _, _, _, _ => none

section Rows

-- `inner` is how values inside others are compared
variable (inner : CompareOp → Value → Value → Native Value)

/-- Whether two values are the same or equal. -/
def sameIn (v w : Value) : Native Bool := do
  if identical v w then return true else truthOf (← inner .equal v w)

/-- The first items of two rows that are not equal. -/
def firstDifference? : List Value → List Value → Native (Option (Value × Value))
  | x :: xs, y :: ys => do
    if ← sameIn inner x y then firstDifference? xs ys else return some (x, y)
  | _, _ => return none

/-- A comparison of two rows: the first difference decides, or else the lengths. -/
def compareRows (op : CompareOp) (xs ys : List Value) : Native Value := do
  match ← firstDifference? inner xs ys, op with
  | none, _ => return .bool (orderHolds op (some (compare xs.length ys.length)))
  | some _, .equal => return .bool false
  | some _, .notEqual => return .bool true
  | some (x, y), _ => inner op x y

/-- A comparison of two sets: one is less than another if all of its keys are in the other one. -/
def compareSets (op : CompareOp) (s t : KeySet) : Native Bool := do
  let within (s t : KeySet) : Native Bool := do
    if t.size < s.size then return false else s.within t (sameIn inner)
  match op with
  | .equal => return s.size == t.size && (← within s t)
  | .notEqual => return ! (s.size == t.size && (← within s t))
  | .less => return s.size < t.size && (← within s t)
  | .lessEqual => within s t
  | .greater => return t.size < s.size && (← within t s)
  | _ => within t s

/-- Whether all entries of a mapping are in another one. -/
def entriesWithin : List Entry → Mapping → Native Bool
  | [], _ => return true
  | e :: rest, t => do
    match (← t.find (sameIn inner e.key) e.hash).bind t.entry? with
    | some found =>
      if ← sameIn inner e.value found.value then entriesWithin rest t else return false
    | none => return false

/-- The keys that a set or a view of a mapping holds, if a value is one. -/
def heldKeys? (v : Value) : Native (Option KeySet) := do
  let h ← Native.heap
  match v with
  | .ref address =>
    match h.get? address with
    | some (.set _ keys) => return some keys
    | some (.view .keys mapping) =>
      let entries := ((h.mapping? (.ref mapping)).map Mapping.entries).getD []
      return some (← entries.foldlM (fun s e => s.insert (sameIn inner e.key) e.hash e.key) {})
    | some (.view .items mapping) =>
      let entries := ((h.mapping? (.ref mapping)).map Mapping.entries).getD []
      return some (← entries.foldlM (fun s e => do
        let item : Value := .tuple [e.key, e.value]
        s.insert (sameIn inner item) (← hashOf item) item) {})
    | _ => return none
  | _ => return none

/-- The sequence of integers that a range stands for, as far as it matters: its length, its start
and its step. -/
def rangeShape (start stop step : Int) : Nat × Int × Int :=
  let size := rangeSize start stop step
  if size = 0 then (0, 0, 0) else if size = 1 then (1, start, 0) else (size, start, step)

/-- A comparison of values that have no class of the snippet; not implemented if they do not
compare. -/
def compareCores (op : CompareOp) (v w : Value) : Native Value := do
  let h ← Native.heap
  let onlyEqual (b : Bool) : Value :=
    match op with
    | .equal => .bool b
    | .notEqual => .bool (! b)
    | _ => .notImplemented
  let compareHeld : Native Value := do
    match ← heldKeys? inner v, ← heldKeys? inner w with
    | some s, some t => return .bool (← compareSets inner op s t)
    | _, _ => return if identical v w then onlyEqual true else .notImplemented
  match plainComparison? op v w, complexEqual? v w with
  | some b, _ => return .bool b
  | none, some b => return onlyEqual b
  | none, none =>
    match v, w with
    | .tuple xs, .tuple ys => compareRows inner op xs ys
    | .range a b c, .range d e f => return onlyEqual (rangeShape a b c == rangeShape d e f)
    | .slice a b c, .slice d e f => compareRows inner op [a, b, c] [d, e, f]
    | .bound a f, .bound b g => return onlyEqual (identical a b && identical f g)
    | .method a f, .method b g => return onlyEqual (identical a b && f == g)
    | .ref a, .ref b =>
      match h.get? a, h.get? b with
      | some (.list xs), some (.list ys) =>
        if xs.size != ys.size && isEquality op then return onlyEqual false
        else compareRows inner op xs.toList ys.toList
      | some (.set _ s), some (.set _ t) => return .bool (← compareSets inner op s t)
      | some (.view .items m), some (.view .items n) =>
        match isEquality op, h.mapping? (.ref m), h.mapping? (.ref n) with
        | true, some s, some t =>
          return onlyEqual (s.size == t.size && (← entriesWithin inner s.entries t))
        | _, _, _ => compareHeld
      | some (.view _ _), _ | _, some (.view _ _) => compareHeld
      | some (.code f), some (.code g) => return onlyEqual (f == g)
      | some (.generic x xs), some (.generic y ys) =>
        if ! isEquality op then return .notImplemented
        else compareRows inner op (x :: xs) (y :: ys)
      | some (.union xs), some (.union ys) =>
        let within (xs ys : List Value) : Native Bool :=
          xs.allM fun x => ys.anyM fun y => sameIn inner x y
        return onlyEqual (xs.length == ys.length && (← within xs ys) && (← within ys xs))
      | _, _ =>
        match isEquality op, h.mapping? v, h.mapping? w with
        | true, some s, some t =>
          return onlyEqual (s.size == t.size && (← entriesWithin inner s.entries t))
        | _, _, _ => return if identical v w then onlyEqual true else .notImplemented
    | _, _ => return if identical v w then onlyEqual true else .notImplemented

/-- What the type of the first of two values says about them; not implemented if it does not
know. -/
def compareBy (op : CompareOp) (v w : Value) : Native Value := do
  let h ← Native.heap
  if ! h.isInstance v then compareCores inner op v (h.core w)
  else match h.special? v (comparisonName op), h.content? v with
    | some method, _ => askMethod v method [w]
    | none, some content => compareCores inner op content (h.core w)
    | none, none =>
      match op, h.special? v "__eq__" with
      | .notEqual, some method =>
        match ← askMethod v method [w] with
        | .notImplemented => return .notImplemented
        | answer => return .bool (! (← truthOf answer))
      | _, _ => compareCores inner op v w

/-- A comparison of two values. The second one is asked first if its type inherits from that of the
first one, and else it is asked if the first one does not know. -/
def compareEither (op : CompareOp) (v w : Value) : Native Value := do
  let h ← Native.heap
  let (kind, other) := (h.typeOf v, h.typeOf w)
  let early := ! Heap.sameKind kind other && h.inherits other kind
  let own := compareBy inner op v w
  let theirs := compareBy inner (mirrored op) w v
  let answer ← match ← if early then theirs else own with
    | .notImplemented => if early then own else theirs
    | answer => pure answer
  match answer, op with
  | .notImplemented, .equal => return .bool (identical v w)
  | .notImplemented, .notEqual => return .bool (! identical v w)
  | .notImplemented, _ => orderFault op v w
  | answer, _ => return answer

end Rows

/-- A comparison of two values; `fuel` bounds the depth. -/
def compareIn : Nat → CompareOp → Value → Value → Native Value
  | 0, _, _, _ => Native.tooDeep " in comparison"
  | fuel + 1, op, v, w => compareEither (compareIn fuel) op v w

/-- A comparison of two values, about equality or order. -/
def compareValues (op : CompareOp) (v w : Value) : Native Value := do
  match plainComparison? op v w with
  | some b => return .bool b
  | none => compareIn (← Native.room) op v w

/-- Whether two values are the same or equal. -/
def same (v w : Value) : Native Bool := do
  if identical v w then return true else truthOf (← compareValues .equal v w)

/-- Whether two values are in an order. -/
def order (op : CompareOp) (v w : Value) : Native Bool := do truthOf (← compareValues op v w)

/-! ## Keys -/

namespace Mapping

/-- The hash of a key, and its row if it is there. -/
def locate (t : Mapping) (key : Value) : Native (Int × Option Nat) := do
  let hash ← hashOf key
  return (hash, ← t.find (same · key) hash)

/-- The entry of a key. -/
def lookup (t : Mapping) (key : Value) : Native (Option Entry) := do
  return (← t.locate key).2.bind t.entry?

/-- A mapping with a value for a key: in its place if the key is there, else at the end. -/
def withEntry (t : Mapping) (key v : Value) : Native Mapping := do
  t.insert (same · key) (← hashOf key) key v

/-- A mapping with the entries of another one. -/
def overlaid (t more : Mapping) : Native Mapping :=
  more.entries.foldlM (fun t e => t.insert (same · e.key) e.hash e.key e.value) t

/-- A mapping with some more entries. -/
def withEntries (t : Mapping) (entries : List (Value × Value)) : Native Mapping :=
  entries.foldlM (fun t (k, v) => t.withEntry k v) t

end Mapping

namespace KeySet

/-- A set with one more key. -/
def withKey (s : KeySet) (v : Value) : Native KeySet := do s.insert (same · v) (← hashOf v) v

/-- A set with some more keys. -/
def withKeys (s : KeySet) (items : List Value) : Native KeySet := items.foldlM withKey s

/-- A set without a key, and whether it was there. -/
def withoutKey (s : KeySet) (v : Value) : Native (Bool × KeySet) := do
  s.erase (same · v) (← hashOf v)

/-- Whether a key is in a set. -/
def contains (s : KeySet) (v : Value) : Native Bool := do s.has (same · v) (← hashOf v)

/-- A set with the same keys, as it is when they are put into an empty one. -/
def copied (s : KeySet) : Native KeySet := KeySet.union {} s same

end KeySet

/-- Puts a key into the set at an address. -/
def addKey (address : Nat) (v : Value) : Native Unit := do
  let hash ← hashOf v
  match (← Native.heap).get? address with
  | some (.set _ keys) =>
    match ← keys.find (same · v) hash with
    | .hit _ => return
    | .miss slot =>
      Native.modifyHeap fun h => h.modify address fun
        | .set frozen keys => .set frozen (keys.insertAt slot hash v)
        | other => other
  | _ => return

/-- Sets the value of a key of the mapping at an address. -/
def addEntry (address : Nat) (key v : Value) : Native Unit := do
  let hash ← hashOf key
  match (← Native.heap).get? address with
  | some (.mapping t) =>
    let row ← t.find (same · key) hash
    Native.modifyHeap fun h => h.modify address fun
      | .mapping t =>
        match row with
        | some row => .mapping (t.replaceAt row v)
        | none => .mapping (t.add hash key v)
      | other => other
  | _ =>
    let t := ((← Native.heap).mapping? (.ref address)).getD {}
    let t ← t.insert (same · key) hash key v
    Native.modifyHeap fun h => h.setMapping address t

/-- A value as it is looked for in a set: another set stands for its unchangeable twin. -/
def setKey (v : Value) : Native Value := do
  let h ← Native.heap
  match h.core v with
  | .ref address =>
    match h.get? address with
    | some (.set false keys) => Native.allocate (.set true keys)
    | _ => return v
  | _ => return v

end SnippetRunner.Evaluation
