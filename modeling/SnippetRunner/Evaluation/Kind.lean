import SnippetRunner.Evaluation.KnownType
import SnippetRunner.Evaluation.Native

/-!
# Types of values

Every value has a type: a known one, or a class of the snippet. A class inherits from its bases,
and a name is looked up along that line.
-/

namespace SnippetRunner.Evaluation

open SnippetRunner.Snippet

/-- The name of the type of a view. -/
def Aspect.typeName : Aspect → String
  | .keys => "dict_keys"
  | .values => "dict_values"
  | .items => "dict_items"

/-- The name of the type of an iterator through a mapping. -/
def Aspect.iteratorName (back : Bool) : Aspect → String
  | .keys => if back then "dict_reversekeyiterator" else "dict_keyiterator"
  | .values => if back then "dict_reversevalueiterator" else "dict_valueiterator"
  | .items => if back then "dict_reverseitemiterator" else "dict_itemiterator"

/-- The name of an iterator's type. -/
def Iterator.typeName : Iterator → String
  | .items typeName _ => typeName
  | .listItems _ _ => "list_iterator"
  | .listBack _ _ => "list_reverseiterator"
  | .rows aspect _ _ _ _ back => aspect.iteratorName back
  | .slots _ _ _ => "set_iterator"
  | .indexed _ _ back => if back then "reversed" else "iterator"
  | .range _ _ _ => "range_iterator"
  | .map _ _ => "map"
  | .filter _ _ => "filter"
  | .zip _ _ => "zip"
  | .enumerate _ _ => "enumerate"
  | .untilSentinel _ _ => "callable_iterator"
  | .asyncStep name _ _ _ _ _ _ => name
  | .waiting _ => "coroutine_wrapper"

/-- The name of the type of one of the own bindings. -/
def OwnBinding.typeName : OwnBinding → String
  | .print => "function"
  | .log => "_CaptureLog"
  | .logLevel _ => "method"
  | .logWrite => "function"
  | .callLater => "method"
  | .callEvery => "method"
  | .cancelCall => "method"
  | .cancelEvery => "method"
  | .importer _ => "function"

/-- The full name of an own binding that is a function. -/
def OwnBinding.fullName? : OwnBinding → Option String
  | .print => some "snipbox.sandbox.context._make_print.<locals>.capture_print"
  | .importer _ => some "snipbox.sandbox.context._make_import.<locals>.guarded_import"
  | .log => none
  | .logLevel name => some ("snipbox.sandbox.context._CaptureLog." ++ name)
  | .logWrite => some "snipbox.sandbox.context.SandboxContextBuilder.build.<locals>.<lambda>"
  | .callLater => some "snipbox.sandbox.timers.TimerQueue.call_later"
  | .callEvery => some "snipbox.sandbox.timers.TimerQueue.call_every"
  | .cancelCall => some "snipbox.sandbox.timers.TimerQueue.cancel_call"
  | .cancelEvery => some "snipbox.sandbox.timers.TimerQueue.cancel_every"

/-- The name of an own binding. -/
def OwnBinding.name : OwnBinding → String
  | .print => "print"
  | .log => "log"
  | .logLevel name => name
  | .logWrite => "<lambda>"
  | .callLater => "call_later"
  | .callEvery => "call_every"
  | .cancelCall => "cancel_call"
  | .cancelEvery => "cancel_every"
  | .importer _ => "guarded_import"

namespace Heap

/-- The type of an object. -/
def typeOfObject : Object → Value
  | .list _ => .type "list"
  | .buffer _ => .type "bytearray"
  | .mapping _ => .type "dict"
  | .set frozen _ => .type (if frozen then "frozenset" else "set")
  | .view aspect _ => .type aspect.typeName
  | .names _ => .type "dict"
  | .members _ fixed => .type (if fixed then "mappingproxy" else "dict")
  | .scope _ => .type "dict"
  | .function _ => .type "function"
  | .class_ c => c.metaclass
  | .instance_ kind _ _ => .ref kind
  | .plain => .type "object"
  | .error e => e.kind
  | .module _ _ => .type "module"
  | .iterator it => .type it.typeName
  | .generator kind _ _ => .type kind.typeName
  | .wrapped .static _ => .type "staticmethod"
  | .wrapped .ofClass _ => .type "classmethod"
  | .property _ _ _ => .type "property"
  | .super _ _ => .type "super"
  | .union _ => .type "types.UnionType"
  | .generic _ _ => .type "types.GenericAlias"
  | .code _ => .type "code"
  | .cell _ _ => .type "cell"
  | .trace _ => .type "traceback"
  | .slot _ _ => .type "member_descriptor"

/-- The type of a value. -/
def typeOf (h : Heap) : Value → Value
  | .none => .type "NoneType"
  | .notImplemented => .type "NotImplementedType"
  | .ellipsis => .type "ellipsis"
  | .bool _ => .type "bool"
  | .int _ => .type "int"
  | .float _ | .nan _ => .type "float"
  | .complex _ _ => .type "complex"
  | .text _ => .type "str"
  | .bytes _ => .type "bytes"
  | .tuple _ => .type "tuple"
  | .range _ _ _ => .type "range"
  | .slice _ _ _ => .type "slice"
  | .type _ => .type "type"
  | .builtin name =>
    match Text.parts '.' name with
    | [kind, member] =>
      if kind == "math" || kind == "json" || member == "__new__" then
        .type "builtin_function_or_method"
      else if KnownType.slotFields kind |>.contains member then .type "member_descriptor"
      else if KnownType.isField name then .type "getset_descriptor"
      else if member.startsWith "__" then .type "wrapper_descriptor"
      else .type "method_descriptor"
    | _ => .type "builtin_function_or_method"
  | .method _ name =>
    .type (if name.startsWith "__" then "method-wrapper" else "builtin_function_or_method")
  | .bound _ _ => .type "method"
  | .own binding => .type binding.typeName
  | .ref address => ((h.get? address).map typeOfObject).getD (.type "object")

/-- The class at a reference. -/
def class? (h : Heap) : Value → Option Class
  | .ref address =>
    match h.get? address with
    | some (.class_ c) => some c
    | _ => none
  | _ => none

/-- The name of a type, with the blocks it was defined in. -/
def kindName (h : Heap) : Value → String
  | .type name => name
  | v =>
    match h.class? v with
    | none => "object"
    | some c =>
      match c.attributes.get? "_complaint_name" with
      | some (.text name) => name
      | _ => c.name

/-- The name of a value's type. -/
def typeName (h : Heap) (v : Value) : String := h.kindName (h.typeOf v)

/-- Whether two types are the same. -/
def sameKind : Value → Value → Bool
  | .type a, .type b => a == b
  | .ref a, .ref b => a == b
  | _, _ => false

/-- Rows of types as one row that keeps the order of each: always the first head comes next that
stands in no other row behind the head. Where there is none, the heads are at odds. `fuel` bounds
the number of types. -/
def mergeLines : Nat → List (List Value) → Except (List Value) (List Value)
  | 0, _ => .ok []
  | fuel + 1, rows =>
    let rows := rows.filter fun row => ! row.isEmpty
    let heads := rows.filterMap List.head?
    let free (head : Value) := ! rows.any fun row => row.tail.any (sameKind head)
    match rows, heads.find? free with
    | [], _ => .ok []
    | _, some head =>
      let rest := rows.map fun row =>
        match row with
        | first :: more => if sameKind first head then more else row
        | [] => []
      (mergeLines fuel rest).map (head :: ·)
    | _, none => .error heads

/-- The types that a class with some bases inherits from, if their order is consistent; `lineOf`
is the line of each base. -/
def baseLine (lineOf : Value → List Value) (bases : List Value) :
    Except (List Value) (List Value) :=
  match bases with
  | [] => .ok [.type "object"]
  | [base] => .ok (lineOf base)
  | _ =>
    let lines := bases.map lineOf
    mergeLines (lines.flatten.length + 1) (lines ++ [bases])

/-- A type and those it inherits from, nearest first; `fuel` bounds the depth. -/
def lineageUpTo (h : Heap) : Nat → Value → List Value
  | 0, _ => []
  | fuel + 1, kind =>
    match kind with
    | .type name => (KnownType.lineage name).map .type
    | _ =>
      match h.class? kind with
      | some c =>
        match baseLine (h.lineageUpTo fuel) c.bases with
        | .ok above => kind :: above
        | .error _ => [kind]
      | none => [kind]

/-- A type and those it inherits from, nearest first. -/
def lineage (h : Heap) (kind : Value) : List Value := h.lineageUpTo 50 kind

/-- Whether a type lets its values have any attributes. -/
def letsAttributes (h : Heap) : Value → Bool
  | .type name => (KnownType.lineage name).contains "BaseException" || name == "type"
  | kind => ((h.class? kind).map fun c => (c.slots.map (·.contains "__dict__")).getD true).getD false

/-- Whether a type lets its values be referred to weakly. -/
def letsReferences (h : Heap) : Value → Bool
  | .type name => ["set", "frozenset", "type"].contains name
  | kind =>
    ((h.class? kind).map fun c => (c.slots.map (·.contains "__weakref__")).getD true).getD false

/-- Whether values of a type can have any attributes. -/
def hasAttributes (h : Heap) (kind : Value) : Bool := (h.lineage kind).any h.letsAttributes

/-- What a class has as members without saying so: those by which its values are asked for their
attributes, if they would have none otherwise, and its description. -/
def unsaidMembers (h : Heap) (kind : Value) (c : Class) : Table :=
  let above := (h.lineage kind).drop 1
  let sized := above.any fun
    | .type name => ["int", "tuple", "bytes", "type"].contains name
    | _ => false
  let dict := h.letsAttributes kind && ! above.any h.letsAttributes
  let weak := h.letsReferences kind && ! above.any h.letsReferences && ! sized
  let member (name : String) : String × Value := (name, .builtin (c.name ++ "." ++ name))
  (if dict then [member "__dict__"] else []) ++ (if weak then [member "__weakref__"] else [])
    ++ if c.attributes.has "__doc__" then [] else [("__doc__", .none)]

/-- The attributes of an object as they are shown: no keys of listed ones, and for a class also what
it does not say itself. -/
def shownAttributes (h : Heap) (address : Nat) : Table :=
  match h.get? address with
  | some (.class_ c) => c.attributes ++ h.unsaidMembers (.ref address) c
  | _ => (h.attributes address).filter fun (name, _) => ! isHiddenKey name

/-- Whether a type is another one or inherits from it. -/
def inherits (h : Heap) (kind ancestor : Value) : Bool :=
  (h.lineage kind).any (sameKind ancestor)

/-- Whether a value is a type. -/
def isKind (h : Heap) : Value → Bool
  | .type _ => true
  | v => (h.class? v).isSome

/-- Whether a type is one of errors. -/
def isErrorKind (h : Heap) (kind : Value) : Bool := h.inherits kind (.type "BaseException")

/-- The known kind of error that a type is or inherits from. -/
def knownErrorKind (h : Heap) (kind : Value) : String :=
  ((h.lineage kind).findSome? fun
    | .type name => if Fault.isKind name then some name else none
    | _ => none).getD "BaseException"

/-- A name in the classes of the snippet along a line. -/
def memberAlong? (h : Heap) (name : String) (line : List Value) : Option Value :=
  line.findSome? fun k => (h.class? k).bind fun c => Table.get? c.attributes name

/-- A name in a class of the snippet, or in one it inherits from. -/
def classMember? (h : Heap) (kind : Value) (name : String) : Option Value :=
  h.memberAlong? name (h.lineage kind)

/-- A method of a known type, as it is found in the type itself. -/
def knownMethod? (name : String) : Value → Option Value
  | .type kind =>
    if KnownType.hasOwn kind name then some (.builtin (kind ++ "." ++ name)) else none
  | _ => none

/-- A name in the types along a line: a member of a class, or a method of a known type. -/
def lineMember? (h : Heap) (name : String) (line : List Value) : Option Value :=
  line.findSome? fun k =>
    (knownMethod? name k).orElse fun _ => (h.class? k).bind fun c => Table.get? c.attributes name

/-- A special method that the class of a value defines, if no known type is asked before it. -/
def special? (h : Heap) (v : Value) (name : String) : Option Value :=
  match v with
  | .ref _ =>
    let line := h.lineage (h.typeOf v)
    match h.memberAlong? name line with
    | none => none
    | some member =>
      let before := line.takeWhile fun k => (h.memberAlong? name [k]).isNone
      if before.any fun k => (knownMethod? name k).isSome then none else some member
  | _ => none

/-- The address of a byte string that can be changed, by itself or as what a value of a class is
made of, with its bytes. -/
def buffer? (h : Heap) : Value → Option (Nat × List UInt8)
  | .ref address =>
    match h.get? address with
    | some (.buffer bs) => some (address, bs)
    | some (.instance_ _ _ (.ref content)) =>
      match h.get? content with
      | some (.buffer bs) => some (content, bs)
      | _ => none
    | _ => none
  | _ => none

/-- What a value of a class is made of as a value of a known type. A byte string that can be changed
counts as the bytes that it has now. -/
def content? (h : Heap) (v : Value) : Option Value :=
  match h.buffer? v, v with
  | some (_, bs), _ => some (.bytes bs)
  | none, .ref address =>
    match h.get? address with
    | some (.instance_ _ _ .none) => none
    | some (.instance_ _ _ content) => some content
    | _ => none
  | none, _ => none

/-- A value, or what it is made of as a value of a known type. -/
def core (h : Heap) (v : Value) : Value := (h.content? v).getD v

/-- The items of a list. -/
def list? (h : Heap) (v : Value) : Option (Array Value) :=
  match h.core v with
  | .ref address =>
    match h.get? address with
    | some (.list items) => some items
    | _ => none
  | _ => none

/-- The entries of a mapping. -/
def mapping? (h : Heap) (v : Value) : Option Mapping :=
  match h.core v with
  | .ref address =>
    match h.get? address with
    | some (.mapping entries) => some entries
    | some (.names table) => some (.ofTable table)
    | some (.members owner _) => some (.ofTable (h.shownAttributes owner))
    | _ => none
  | _ => none

/-- Replaces the mapping at an address. What stands for names has texts as its keys only. -/
def setMapping (h : Heap) (address : Nat) (t : Mapping) : Heap :=
  let table : Table := t.entries.filterMap fun e =>
    match e.key with
    | .text id => some (id, e.value)
    | _ => none
  match h.get? address with
  | some (.names _) => h.set address (.names table)
  | some (.members owner false) =>
    h.mapAttributes owner fun old => old.filter (fun (name, _) => isHiddenKey name) ++ table
  | some (.members _ true) => h
  | _ => h.set address (.mapping t)

/-- The keys of a set. -/
def set? (h : Heap) (v : Value) : Option KeySet :=
  match h.core v with
  | .ref address =>
    match h.get? address with
    | some (.set _ keys) => some keys
    | _ => none
  | _ => none

/-- The real number that a value is. -/
def numeric? (h : Heap) (v : Value) : Option Data.Numeric := (h.core v).numeric?

/-- The text that a value is. -/
def text? (h : Heap) (v : Value) : Option String :=
  match h.core v with
  | .text s => some s
  | _ => none

/-- Whether a type has other types as its arguments. -/
def isGeneric (h : Heap) : Value → Bool
  | .ref address =>
    match h.get? address with
    | some (.generic _ _) => true
    | _ => false
  | _ => false

/-- Whether a value can be called. -/
def isCallable (h : Heap) : Value → Bool
  | .type _ => true
  | .builtin name => ! KnownType.isField name
  | .method _ _ => true
  | .bound _ _ => true
  | .own binding => binding != .log
  | v@(.ref address) =>
    match h.get? address with
    | some (.function _) => true
    | some (.class_ _) | some (.wrapped .static _) | some (.generic _ _) => true
    | some (.instance_ _ _ _) => (h.special? v "__call__").isSome
    | some (.error _) => (h.special? v "__call__").isSome
    | _ => false
  | _ => false

/-- Whether a value that is no value of a class counts as true. -/
def plainTruth (h : Heap) (v : Value) : Bool :=
  match v with
  | .none => false
  | .bool b => b
  | .int n => n != 0
  | .float x => x != 0.0
  | .complex x y => x != 0.0 || y != 0.0
  | .text s => ! s.isEmpty
  | .bytes bs => ! bs.isEmpty
  | .tuple items => ! items.isEmpty
  | .range start stop step => if 0 < step then start < stop else stop < start
  | .ref address =>
    match h.get? address with
    | some (.list items) => ! items.isEmpty
    | some (.mapping entries) => entries.size != 0
    | some (.names table) => ! table.isEmpty
    | some (.members owner _) => ! (h.shownAttributes owner).isEmpty
    | some (.set _ keys) => keys.size != 0
    | some (.view _ mapping) => ((h.mapping? (.ref mapping)).map (·.size != 0)).getD true
    | _ => true
  | _ => true

/-- Whether a value has a class of the snippet. -/
def isInstance (h : Heap) : Value → Bool
  | .ref address =>
    match h.get? address with
    | some (.instance_ _ _ _) => true
    | some (.error e) => (h.class? e.kind).isSome
    | some (.class_ c) => (h.class? c.metaclass).isSome
    | _ => false
  | _ => false

/-- Whether a value counts as true, unless its class has to be asked. -/
def truth? (h : Heap) (v : Value) : Option Bool :=
  if h.isInstance v && ((h.special? v "__bool__").isSome || (h.special? v "__len__").isSome) then
    none
  else some (h.plainTruth (h.core v))

end Heap

/-- The most items that a row can have. -/
def sizeLimit : Nat := 9223372036854775807

/-- Whether an integer can be the number of items of a row, or the place of one. -/
def isSize (n : Int) : Bool := -(sizeLimit + 1) ≤ n ∧ n ≤ sizeLimit

/-- Asks a method that the class of a value defines, with named arguments. A function gets the value
first; what a class holds otherwise is called as it is. -/
def askMethodWith (v method : Value) (args : List Value) (keywords : Table) : Native Value := do
  let h ← Native.heap
  let ask (callee : Value) (args : List Value) : Native Value :=
    Native.askValue (.call callee args keywords)
  match method with
  | .ref address =>
    match h.get? address with
    | some (.function _) => ask method (v :: args)
    | some (.wrapped .static f) => ask f args
    | some (.wrapped .ofClass f) => ask f (h.typeOf v :: args)
    | some (.property f _ _) => do ask (← Native.askCall f [v]) args
    | _ => ask method args
  | .own binding => ask method (if binding.typeName == "function" then v :: args else args)
  | .builtin name =>
    ask method (if name.contains '.' && ! name.startsWith "math." then v :: args else args)
  | _ => ask method args

/-- Asks a method that the class of a value defines. -/
def askMethod (v method : Value) (args : List Value) : Native Value :=
  askMethodWith v method args []

/-- The integer that a value is, or stands for by its class. -/
def indexOf? (v : Value) : Native (Option Int) := do
  match ((← Native.heap).core v).int? with
  | some n => return some n
  | none =>
    match (← Native.heap).special? v "__index__" with
    | none => return none
    | some method =>
      let answer ← askMethod v method []
      match ((← Native.heap).core answer).int? with
      | some n => return some n
      | none =>
        let typeName := (← Native.heap).typeName answer
        Native.typeError s!"__index__ returned non-int (type {typeName})"

/-- The number of items that a class tells for a value. -/
def lengthAnswer (answer : Value) : Native Nat := do
  match ← indexOf? answer with
  | none =>
    let typeName := (← Native.heap).typeName answer
    Native.typeError s!"'{typeName}' object cannot be interpreted as an integer"
  | some n =>
    if n < 0 then Native.valueError "__len__() should return >= 0"
    else if isSize n then return n.toNat
    else Native.fail "OverflowError" "cannot fit 'int' into an index-sized integer"

/-- Whether a value counts as true. -/
def truthOf (v : Value) : Native Bool := do
  let h ← Native.heap
  match h.truth? v with
  | some b => return b
  | none =>
    match h.special? v "__bool__" with
    | some method =>
      match ← askMethod v method [] with
      | .bool b => return b
      | answer =>
        let kind := (← Native.heap).typeName answer
        Native.typeError s!"__bool__ should return bool, returned {kind}"
    | none =>
      match h.special? v "__len__" with
      | some method =>
        return (← lengthAnswer (← askMethod v method [])) != 0
      | none => return true

/-- A byte string of the same kind as a value: one that can be changed, or one that cannot. -/
def bytesLike (v : Value) (bs : List UInt8) : Native Value := do
  if ((← Native.heap).buffer? v).isSome then Native.allocate (.buffer bs) else return .bytes bs

end SnippetRunner.Evaluation
