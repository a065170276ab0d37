import SnippetRunner.Evaluation.Generator
import SnippetRunner.Evaluation.Instance
import SnippetRunner.Evaluation.NumberFunction
import SnippetRunner.Evaluation.Template

/-!
# Special methods of known types

What operators, displays and loops do with values of known types, when their methods are called by
name. The class of the value is not asked again.
-/

namespace SnippetRunner.Evaluation

open SnippetRunner.Snippet

/-! ## Names -/

/-- The name of a special method without its underlines. -/
def specialStem (name : String) : String := ((name.drop 2).dropEnd 2).toString

/-- The operators that have methods. -/
def allOperators : List BinaryOp :=
  [.add, .sub, .mul, .matMul, .div, .floorDiv, .mod, .pow, .leftShift, .rightShift, .bitOr,
    .bitXor, .bitAnd]

/-- The operator of a stem after a mark. -/
def operatorAfter? (mark stem : String) : Option BinaryOp :=
  allOperators.find? fun op => mark ++ operatorName op == stem

/-- The comparison of a stem. -/
def comparisonOf? (stem : String) : Option CompareOp :=
  [CompareOp.equal, .notEqual, .less, .lessEqual, .greater, .greaterEqual].find? fun op =>
    comparisonName op == s!"__{stem}__"

/-- How many arguments a special method takes, if their number is fixed. -/
def argumentCount? (stem : String) : Option Nat :=
  let isBinary := ["", "r", "i"].any fun mark => (operatorAfter? mark stem).isSome
  if stem == "pow" || stem == "rpow" then none
  else if isBinary || (comparisonOf? stem).isSome then some 1
  else if ["contains", "getitem", "delitem", "getattribute", "delattr", "divmod", "rdivmod",
    "format"].contains stem then some 1
  else if ["len", "repr", "str", "hash", "iter", "next", "neg", "pos", "invert", "bool", "int",
    "float", "index", "reversed", "trunc", "floor", "ceil", "abs", "complex", "await", "aiter",
    "anext"].contains stem then
    some 0
  else if ["setitem", "setattr"].contains stem then some 2
  else none

/-! ## Parts -/

/-- The name of a member that is given as a text. -/
def nameArgument (v : Value) : Native String := do
  match (← Native.heap).text? v with
  | some s => return s
  | none =>
    let typeName := (← Native.heap).typeName v
    Native.typeError s!"attribute name must be string, not '{typeName}'"

/-- A comparison by the rules of a known type. -/
def compareAs (owner : String) (op : CompareOp) (v w : Value) : Native Value := do
  let h ← Native.heap
  if owner != "object" then compareCores compareValues op (h.core v) (h.core w)
  else match op, h.special? v "__eq__" with
    | .notEqual, some method =>
      match ← askMethod v method [w] with
      | .notImplemented => return .notImplemented
      | answer => return .bool (! (← truthOf answer))
    | .equal, _ => return if identical v w then .bool true else .notImplemented
    | .notEqual, none => return if identical v w then .bool false else .notImplemented
    | _, _ => return .notImplemented

/-- An operator by the rules of a known type. -/
def operateAs (owner : String) (op : BinaryOp) (v w : Value) : Native Value := do
  let h ← Native.heap
  let (x, y) := (h.core v, h.core w)
  match owner, op, x with
  | "int", _, _ | "bool", _, _ =>
    match x.int?, y.int? with
    | some _, some _ => numberBinary op x y
    | _, _ => return .notImplemented
  | "float", _, _ =>
    match x.numeric?, y.numeric? with
    | some _, some _ => numberBinary op x y
    | _, _ => return .notImplemented
  | _, .mod, .text template => fillTemplate template w
  | _, .mod, .bytes template => fillBytes v template w
  | _, _, _ =>
    match ← coreBinary op x y with
    | .notImplemented =>
      if h.isRow x && (op == .add || op == .mul) then rowBinary op false x y
      else return .notImplemented
    | answer => return answer

/-- A power modulo a value by the rules of a known type. -/
def raisedAs (owner : String) (v w modulus : Value) : Native Value := do
  let h ← Native.heap
  match modulus, (h.core w).numeric?, (h.core modulus).numeric? with
  | .none, _, _ => operateAs owner .pow v w
  | _, some _, some _ => powModOf v w modulus
  | _, _, _ => return .notImplemented

/-- A number as another kind of number. -/
def numberAs (stem : String) (v : Value) : Native Value := do
  let rounded (round : Float → Option Int) : Native Value := do
    match v.int? with
    | some n => return .int n
    | none => return .int (← integral round (v.float?.getD 0.0))
  match stem with
  | "floor" => rounded Number.floor?
  | "ceil" => rounded Number.ceiling?
  | "float" => return .float (← floatOf v)
  | "complex" => makeComplex [v]
  | _ => rounded Number.truncate?

/-- The hash of a value by the rules of its known type. -/
def hashAs (v : Value) : Native Int := do
  let h ← Native.heap
  match v, h.content? v with
  | _, some content => hashOf content
  | .ref address, none => if h.isInstance v then return intHash (address * 4) else hashOf v
  | _, none => hashOf v

/-- What a property or a function does for the class it stands in. -/
def accessThrough (self : Value) (stem : String) (args : List Value) : Native Value := do
  let h ← Native.heap
  let owner := args.headD .none
  match self, stem with
  | .ref address, _ =>
    match h.get? address, stem with
    | some (.property getter _ _), "get" => Native.askCall getter [owner]
    | some (.property _ setter _), "set" => Native.askCall setter args
    | some (.property _ _ deleter), "delete" => Native.askCall deleter args
    | some (.function _), "get" =>
      match owner with
      | .none => return self
      | _ => return .bound owner self
    | some (.slot home id), _ =>
      if stem == "get" && owner matches .none then return self
      else if ! h.inherits (h.typeOf owner) (.ref home) then
        Native.typeError (s!"descriptor '{id}' for '{h.kindName (.ref home)}' objects doesn't "
          ++ s!"apply to a '{h.typeName owner}' object")
      else match stem, args with
        | "set", [_, v] => done (fillSlot home id owner v)
        | "delete", _ => done (emptySlot home id owner)
        | _, _ => takeSlot home id owner
    | _, _ => Native.unavailable s!"__{stem}__"
  | .builtin field, _ =>
    match stem, owner with
    | "get", .none => return self
    | "get", _ => memberOf owner ((Text.parts '.' field).getLastD "")
    | _, _ => Native.unavailable s!"__{stem}__"
  | _, _ => Native.unavailable s!"__{stem}__"
where
  /-- Does something that has no value. -/
  done (work : Native Unit) : Native Value := do
    work
    return .none

/-- What is waited for through a value: its iterator, or a step of an asynchronous generator. -/
def waitThrough (self : Value) (stem : String) : Native Value := do
  match (← Native.heap).suspension? self with
  | some (address, .coroutine) => Native.allocate (.iterator (.waiting address))
  | some (address, _) => asyncGeneratorMethod address s!"__{stem}__" []
  | none => return self

/-- What a value shows of itself by the rules of a known type. -/
def textAs (owner stem : String) (self : Value) (args : List Value) : Native String := do
  let h ← Native.heap
  match stem, owner, args with
  | "repr", "object", _ => return h.plainText self
  | "repr", _, _ => plainInspect self
  | "str", "object", _ => inspect self
  | "str", _, _ => plainTextOf self
  | _, _, layout :: _ =>
    let layout ← textArgument "__format__() argument " layout
    if owner != "object" then coreFormatted self (h.core self) layout
    else if layout.isEmpty then textOf self
    else Native.typeError s!"unsupported format string passed to {h.typeName self}.__format__"
  | _, _, [] => return ""

/-! ## Methods -/

/-- A special method of a container. -/
def containerMethod (self : Value) (stem : String) (args : List Value) : Native Value := do
  let h ← Native.heap
  let core := h.core self
  match stem, args with
  | "len", _ => return .int ((h.coreLength? core).getD 0)
  | "contains", [v] =>
    match ← coreContains? core v with
    | some found => return .bool found
    | none => return .bool (← foundIn core v)
  | "getitem", [index] => coreItem self core index
  | "setitem", [index, v] =>
    setCoreItem self core index v
    return .none
  | "delitem", [index] =>
    deleteCoreItem self core index
    return .none
  | "iter", _ => if h.isIterator self then return self else iteratorOf core
  | "next", _ => (← nextOf self).orFail
  | "reversed", _ => reversedOf core
  | _, _ => Native.unavailable s!"__{stem}__"

/-- A special method of a number. -/
def numberMethod (self : Value) (stem : String) (args : List Value) : Native Value := do
  let h ← Native.heap
  let core := h.core self
  match stem, args with
  | "bool", _ => return .bool (h.plainTruth core)
  | "neg", _ => return (signed? .minus core).getD .none
  | "pos", _ => return (signed? .plus core).getD .none
  | "invert", _ => return (signed? .invert core).getD .none
  | "abs", _ => return (← sizeCore? core).getD .none
  | "round", _ => roundCore self (args.headD .none)
  | "divmod", [w] => divideCores core (h.core w)
  | "rdivmod", [w] => divideCores (h.core w) core
  | _, _ => numberAs stem core

/-- The names of all members of a value: its own, then those of its class and of the classes that
this inherits from. -/
def memberNames (v : Value) : Native (List String) := do
  let h ← Native.heap
  let own := match v with
    | .ref address => (h.shownAttributes address).map (·.1)
    | _ => []
  let ofKind (kind : Value) : List String :=
    match kind, h.class? kind with
    | .type known, _ =>
      KnownType.ownSpecials known ++ KnownType.ownMethods known ++ KnownType.slotFields known
        ++ KnownType.askedFields known ++ ["__doc__"]
        ++ (if known == "object" then ["__class__"] else [])
    | .ref address, some _ => (h.shownAttributes address).map (·.1)
    | _, _ => []
  return (own ++ (h.lineage (h.typeOf v)).flatMap ofKind).eraseDups

/-- A special method that makes, fills or calls a value, or deals with its members. -/
def objectMethod (owner : String) (self : Value) (stem : String) (args : List Value)
    (keywords : Table) : Native Value := do
  let h ← Native.heap
  match stem, args with
  | "getattribute", [id] => memberByType self (← nameArgument id)
  | "setattr", [id, v] =>
    setPlainMember self (← nameArgument id) v
    return .none
  | "delattr", [id] =>
    deletePlainMember self (← nameArgument id)
    return .none
  | "init", _ =>
    fillCore owner self args keywords
    return .none
  | "call", _ =>
    if owner == "type" then instantiate self args keywords
    else Native.askValue (.call self args keywords)
  | "get", _ | "set", _ | "delete", _ => accessThrough self stem args
  | "init_subclass", [] =>
    if keywords.isEmpty then return .none
    else Native.typeError s!"{h.kindName self}.__init_subclass__() takes no keyword arguments"
  | "init_subclass", _ =>
    Native.typeError
      s!"{h.kindName self}.__init_subclass__() takes no arguments ({args.length} given)"
  | "subclasshook", _ => return .notImplemented
  | "subclasses", [] =>
    let below := (List.range h.objects.size).filter fun address =>
      ((h.class? (.ref address)).map fun c => c.bases.any (Heap.sameKind self)).getD false
    Native.allocate (.list (below.map Value.ref).toArray)
  | "dir", [] =>
    Native.allocate (.list ((← memberNames self).map Value.text).toArray)
  | "await", _ | "aiter", _ | "anext", _ => waitThrough self stem
  | "class_getitem", _ => genericOf self (args.headD .none)
  | _, _ => Native.unavailable s!"__{stem}__"

/-- The stems of special methods of containers. -/
def containerStems : List String :=
  ["len", "contains", "getitem", "setitem", "delitem", "iter", "next", "reversed"]

/-- The stems of special methods of numbers that are no operators. -/
def numberStems : List String :=
  ["bool", "neg", "pos", "invert", "abs", "round", "divmod", "rdivmod", "int", "float", "index",
    "trunc", "floor", "ceil", "complex"]

/-- Checks what a special method is called with. -/
def checkSpecial (stem : String) (args : List Value) (keywords : Table) : Native Unit := do
  if ! keywords.isEmpty && ! ["init", "call", "init_subclass"].contains stem then
    Native.typeError s!"wrapper __{stem}__() takes no keyword arguments"
  match argumentCount? stem with
  | some n =>
    if args.length ≠ n then
      Native.typeError s!"expected {n} argument{ArgumentRule.plural n}, got {args.length}"
  | none => return

/-- A special method of a known type. -/
def specialMethod (owner : String) (self : Value) (stem : String) (args : List Value)
    (keywords : Table) : Native Value := do
  checkSpecial stem args keywords
  match comparisonOf? stem, operatorAfter? "" stem, operatorAfter? "r" stem,
      operatorAfter? "i" stem, args with
  | some op, _, _, _, [w] => compareAs owner op self w
  | none, some .pow, _, _, [w, modulus] => raisedAs owner self w modulus
  | none, some op, _, _, w :: _ => operateAs owner op self w
  | none, none, some op, _, w :: _ =>
    let h ← Native.heap
    if h.isRow (h.core self) && op != .mod then operateAs owner op self w
    else operateAs owner op w self
  | none, none, none, some op, [w] => changed op self w
  | _, _, _, _, _ =>
    if containerStems.contains stem then containerMethod self stem args
    else if numberStems.contains stem then numberMethod self stem args
    else if ["repr", "str", "format"].contains stem then
      return .text (← textAs owner stem self args)
    else if stem == "hash" then return .int (← hashAs self)
    else objectMethod owner self stem args keywords

end SnippetRunner.Evaluation
