import SnippetRunner.Evaluation.Kind

/-!
# Which types a class can inherit from

The types that a class names as its bases have to agree: on the form of the values, on an order, and
on the type that the class itself is a value of.
-/

namespace SnippetRunner.Evaluation

/-- Types that no class can inherit from. -/
def finalTypes : List String :=
  ["bool", "NoneType", "NotImplementedType", "ellipsis", "range", "slice", "function", "method",
    "generator", "builtin_function_or_method", "dict_keys", "dict_values", "dict_items",
    "mappingproxy", "types.GenericAlias", "types.UnionType", "coroutine", "async_generator"]

/-- Known types that values share no form with, other than what inherits from them. -/
def formTypes : List String :=
  ["int", "float", "complex", "str", "bytes", "bytearray", "list", "tuple", "dict", "set",
    "frozenset", "property", "staticmethod", "classmethod", "super", "enumerate", "zip", "map",
    "filter", "reversed", "type", "AttributeError", "ImportError", "NameError", "StopIteration",
    "BaseException", "object"]

namespace Heap

/-- The nearest type of a line that decides on the form of a value. -/
def formOf (h : Heap) (kind : Value) : String :=
  ((h.lineage kind).findSome? fun
    | .type name => if formTypes.contains name then some name else none
    | _ => none).getD "object"

/-- The nearest type of a line that decides what a value has room for. -/
def roomOf (h : Heap) (kind : Value) : Value :=
  ((h.lineage kind).find? fun
    | .type name => formTypes.contains name
    | k => ((h.class? k).bind (·.slots)).any fun names =>
      names.any fun name => name != "__dict__" && name != "__weakref__").getD (.type "object")

/-- The type that decides what values with several bases have room for, unless two of them are at
odds. -/
def jointRoom? (h : Heap) : List Value → Option Value
  | [] => some (.type "object")
  | base :: rest => do
    let other ← h.jointRoom? rest
    let own := h.roomOf base
    if h.inherits own other then some own
    else if h.inherits other own then some other
    else none

/-- Whether values of two types have room for the same. -/
def sameLayout (h : Heap) (a b : Value) : Bool :=
  sameKind (h.roomOf a) (h.roomOf b) && h.hasAttributes a == h.hasAttributes b

/-- The first type that occurs a second time. -/
def repeatedBase? : List Value → Option Value
  | [] => none
  | base :: rest => if rest.any (sameKind base) then some base else repeatedBase? rest

/-- What is wrong with a value as a type to inherit from. -/
def baseFault? (h : Heap) (base : Value) : Option String :=
  match base with
  | .type name =>
    if finalTypes.contains name then some s!"type '{name}' is not an acceptable base type"
    else none
  | _ => if h.isKind base then none else some "bases must be types"

/-- What is wrong with the types that a class is to inherit from. -/
def basesFault? (h : Heap) (bases : List Value) : Option String :=
  match bases.findSome? h.baseFault?, h.jointRoom? bases with
  | some fault, _ => some fault
  | none, none => some "multiple bases have instance lay-out conflict"
  | none, some _ =>
    match repeatedBase? bases, baseLine h.lineage bases with
    | some base, _ => some s!"duplicate base class {h.kindName base}"
    | none, .error heads =>
      let names := heads.foldl (fun names kind =>
        if names.contains (h.kindName kind) then names else names ++ [h.kindName kind]) []
      some ("Cannot create a consistent method resolution\norder (MRO) for bases "
        ++ String.intercalate ", " names)
    | none, .ok _ => none

/-- The type that is nearer than any other, among one and those of some values. -/
def nearestType (h : Heap) : Value → List Value → Except String Value
  | nearest, [] => .ok nearest
  | nearest, base :: rest =>
    let kind := h.typeOf base
    if h.inherits nearest kind then h.nearestType nearest rest
    else if h.inherits kind nearest then h.nearestType kind rest
    else .error ("metaclass conflict: the metaclass of a derived class must be a " ++
      "(non-strict) subclass of the metaclasses of all its bases")

/-- The type that a class is a value of: one that is given, or that of its first base. Types of
other bases go first where they are nearer. -/
def metaclassOf (h : Heap) (given : Option Value) (bases : List Value) : Except String Value :=
  match given, bases with
  | some v, _ => if h.isKind v then h.nearestType v bases else .ok v
  | none, [] => .ok (.type "type")
  | none, first :: _ => h.nearestType (h.typeOf first) bases

end Heap

end SnippetRunner.Evaluation
