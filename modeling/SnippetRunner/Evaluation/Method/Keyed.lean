import SnippetRunner.Evaluation.Method.Row

/-!
# Methods of mappings and sets

What is given to these methods is looked through from left to right, and what was put in before
something fails stays.
-/

namespace SnippetRunner.Evaluation

/-! ## Mappings -/

/-- The mapping at an address. -/
def mappingAt (address : Nat) : Native Mapping :=
  return ((← Native.heap).mapping? (.ref address)).getD {}

/-- Changes the mapping at an address. -/
def modifyMapping (address : Nat) (f : Mapping → Mapping) : Native Unit :=
  Native.modifyHeap fun h =>
    match h.get? address with
    | some (.mapping _) =>
      h.modify address fun
        | .mapping t => .mapping (f t)
        | other => other
    | _ => h.setMapping address (f ((h.mapping? (.ref address)).getD {}))

/-- Takes an entry out of the mapping at an address. -/
def takeEntry (address : Nat) (key : Value) (standard : Option Value) : Native Value := do
  let t ← mappingAt address
  let found ← if t.size = 0 then pure none else do pure (← t.locate key).2
  match found.bind fun row => (t.entry? row).map fun e => (row, e.value), standard with
  | some (row, v), _ =>
    modifyMapping address (·.removeAt row)
    return v
  | none, some v => return v
  | none, none => Native.failWith "KeyError" [key]

/-- Takes the last entry out of the mapping at an address. -/
def takeLastEntry (address : Nat) : Native Value := do
  let t ← mappingAt address
  match t.lastRow?.bind fun row => (t.entry? row).map fun e => (row, e) with
  | some (row, e) =>
    modifyMapping address (·.removeAt row)
    return .tuple [e.key, e.value]
  | none => Native.fail "KeyError" "popitem(): dictionary is empty"

/-- The value of a key of the mapping at an address, which is set if it has none. -/
def entryOr (address : Nat) (key standard : Value) : Native Value := do
  let t ← mappingAt address
  match (← t.locate key).2.bind t.entry? with
  | some e => return e.value
  | none =>
    addEntry address key standard
    return standard

/-- A mapping of a type in which all of some keys have the same value. -/
def mappingFrom (kind keys v : Value) : Native Value := do
  match kind with
  | .type "dict" =>
    let items ← itemsOf keys
    let t ← Mapping.withEntries {} (items.map fun k => (k, v))
    Native.allocate (.mapping t)
  | _ =>
    let made ← Native.askCall kind []
    for k in ← itemsOf keys do setItem made k v
    return made

/-- A method of the mapping at an address. -/
def mappingMethod (address : Nat) (name : String) (args : List Value) (keywords : Table) :
    Native Value := do
  match name, args with
  | "get", k :: rest =>
    return ((← (← mappingAt address).lookup k).map Entry.value).getD (rest.headD .none)
  | "keys", _ => Native.allocate (.view .keys address)
  | "values", _ => Native.allocate (.view .values address)
  | "items", _ => Native.allocate (.view .items address)
  | "pop", k :: rest => takeEntry address k rest.head?
  | "popitem", _ => takeLastEntry address
  | "setdefault", k :: rest => entryOr address k (rest.headD .none)
  | "update", _ =>
    for v in args do mergeInto address v
    modifyMapping address fun t => keywords.foldl (fun t (id, v) => t.putText id v) t
    return .none
  | "clear", _ =>
    modifyMapping address fun _ => {}
    return .none
  | "copy", _ => Native.allocate (.mapping (← mappingAt address).rewritten)
  | _, _ => Native.unavailable name

/-! ## Sets -/

/-- The set at an address. -/
def setAt (address : Nat) : Native KeySet :=
  return ((← Native.heap).set? (.ref address)).getD {}

/-- Changes the set at an address. -/
def modifySet (address : Nat) (f : KeySet → KeySet) : Native Unit :=
  Native.modifyHeap fun h => h.modify address fun
    | .set frozen keys => .set frozen (f keys)
    | other => other

/-- Replaces the set at an address. -/
def putSet (address : Nat) (keys : KeySet) : Native Value := do
  modifySet address fun _ => keys
  return .none

/-- The keys of a set that are among the items of a value, too. -/
def meeting (s : KeySet) (v : Value) : Native KeySet := do
  match (← Native.heap).set? v with
  | some t => s.intersection t same
  | none =>
    (← itemsOf v).foldlM (fun (r : KeySet) item => do
      if ← s.contains item then r.withKey item else return r) {}

/-- A set without the items of a value. -/
def withoutItems (s : KeySet) (v : Value) : Native KeySet := do
  match (← Native.heap).set? v with
  | some t => s.without t.keys same
  | none => (← itemsOf v).foldlM (fun s item => return (← s.withoutKey item).2) s

/-- The keys of a set that are not among the items of a value. -/
def differing (s : KeySet) (v : Value) : Native KeySet := do
  match (← Native.heap).set? v with
  | some t => s.difference t same
  | none => withoutItems (← s.copied) v

/-- The keys that are in one of a set and the items of a value, but not in both. -/
def toggled (s : KeySet) (v : Value) : Native KeySet := do s.toggle (← keySetOf v) same

/-- A method that makes a new set of one and the items of others. -/
def combined? (s : KeySet) (name : String) (args : List Value) : Native (Option KeySet) := do
  match name, args with
  | "copy", _ => return some (← s.copied)
  | "intersection", [] => return some (← s.copied)
  | "intersection", _ => return some (← args.foldlM meeting s)
  | "difference", [] => return some (← s.copied)
  | "difference", first :: rest => return some (← rest.foldlM withoutItems (← differing s first))
  | "symmetric_difference", [v] =>
    return some (← (← keySetOf v >>= KeySet.copied).toggle s same)
  | _, _ => return none

/-- Whether a set and the items of a value are disjoint, or one holds the other. -/
def relation? (s : KeySet) (name : String) (v : Value) : Native (Option Bool) := do
  match name with
  | "issubset" => return some (← s.within (← keySetOf v) same)
  | "issuperset" => return some (← (← keySetOf v).within s same)
  | "isdisjoint" =>
    match (← Native.heap).set? v with
    | some t =>
      let (small, large) := if t.size < s.size then (t, s) else (s, t)
      return some (! (← small.keys.anyM fun (hash, w) => large.has (same · w) hash))
    | none => return some (! (← (← itemsOf v).anyM s.contains))
  | _ => return none

/-- A method of the set at an address. -/
def setMethod (address : Nat) (frozen : Bool) (name : String) (args : List Value) :
    Native Value := do
  let s ← setAt address
  match name, args with
  | "add", [v] =>
    addKey address v
    return .none
  | "remove", [v] =>
    match ← s.withoutKey (← setKey v) with
    | (true, keys) => putSet address keys
    | (false, _) => Native.failWith "KeyError" [v]
  | "discard", [v] =>
    let (_, keys) ← s.withoutKey (← setKey v)
    putSet address keys
  | "pop", _ =>
    match s.pop? with
    | some (v, keys) =>
      let _ ← putSet address keys
      return v
    | none => Native.fail "KeyError" "pop from an empty set"
  | "clear", _ => putSet address {}
  | "update", _ =>
    for v in args do insertInto address v
    return .none
  | "union", _ =>
    let made ← Native.askObject (.set frozen (← s.copied))
    for v in args do insertInto made v
    return .ref made
  | "intersection_update", _ => putSet address (← args.foldlM meeting s)
  | "difference_update", _ =>
    for v in args do
      let _ ← putSet address (← withoutItems (← setAt address) v)
    return .none
  | "symmetric_difference_update", [v] => putSet address (← toggled s v)
  | _, _ =>
    match ← combined? s name args, ← relation? s name (args.headD .none) with
    | some keys, _ => Native.allocate (.set frozen keys)
    | none, some b => return .bool b
    | none, none => Native.unavailable name

/-- A method of a view of a mapping. -/
def viewMethod (v : Value) (name : String) (args : List Value) : Native Value := do
  match name, args with
  | "isdisjoint", [w] =>
    match ← relation? (← keySetOf v) name w with
    | some b => return .bool b
    | none => return .none
  | _, _ => Native.unavailable name

end SnippetRunner.Evaluation
