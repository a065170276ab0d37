import SnippetRunner.Fault.Kind

/-!
# Known types

The types that every snippet knows, their methods, and the special methods by which operators,
displays and loops ask a value. A type has the methods of those it inherits from as well.
-/

namespace SnippetRunner.Evaluation.KnownType

/-- A known type and those it inherits from, nearest first. -/
def lineage (name : String) : List String :=
  if name == "object" then [name]
  else if name == "bool" then ["bool", "int", "object"]
  else if Fault.isKind name then Fault.lineage name ++ ["object"]
  else [name, "object"]

/-- The methods of texts. -/
def textMethods : List String :=
  ["encode", "replace", "split", "rsplit", "join", "capitalize", "casefold", "title", "center",
    "count", "expandtabs", "find", "partition", "index", "ljust", "lower", "lstrip", "rfind",
    "rindex", "rjust", "rstrip", "rpartition", "splitlines", "strip", "swapcase", "translate",
    "upper", "startswith", "endswith", "removeprefix", "removesuffix", "isascii", "islower",
    "isupper", "istitle", "isspace", "isdecimal", "isdigit", "isnumeric", "isalpha", "isalnum",
    "isidentifier", "isprintable", "zfill", "format", "format_map", "maketrans"]

/-- The methods of byte strings. -/
def byteMethods : List String :=
  ["capitalize", "center", "count", "decode", "endswith", "expandtabs", "find", "fromhex", "hex",
    "index", "isalnum", "isalpha", "isascii", "isdigit", "islower", "isspace", "istitle", "isupper",
    "join", "ljust", "lower", "lstrip", "maketrans", "partition", "replace", "removeprefix",
    "removesuffix", "rfind", "rindex", "rjust", "rpartition", "rsplit", "rstrip", "split",
    "splitlines", "startswith", "strip", "swapcase", "title", "translate", "upper", "zfill"]

/-- The methods by which a byte string is changed. -/
def bufferMethods : List String :=
  ["append", "clear", "copy", "extend", "insert", "pop", "remove", "reverse"]

/-- The methods that sets of both kinds have. -/
def setMethods : List String :=
  ["copy", "difference", "intersection", "isdisjoint", "issubset", "issuperset",
    "symmetric_difference", "union"]

/-- The methods of a known type that are no special ones. -/
def ownMethods : String → List String
  | "str" => textMethods
  | "bytes" => byteMethods
  | "bytearray" => byteMethods ++ bufferMethods
  | "list" =>
    ["clear", "copy", "append", "insert", "extend", "pop", "remove", "index", "count", "reverse",
      "sort"]
  | "tuple" | "range" => ["index", "count"]
  | "slice" => ["indices"]
  | "dict" =>
    ["get", "setdefault", "pop", "popitem", "keys", "items", "values", "update", "fromkeys",
      "clear", "copy"]
  | "set" =>
    ["add", "clear", "discard", "difference_update", "intersection_update", "pop", "remove",
      "symmetric_difference_update", "update"] ++ setMethods
  | "frozenset" => setMethods
  | "mappingproxy" => ["get", "keys", "values", "items", "copy"]
  | "dict_keys" | "dict_items" => ["isdisjoint"]
  | "generator" | "coroutine" | "coroutine_wrapper" => ["send", "throw", "close"]
  | "async_generator" => ["asend", "athrow", "aclose"]
  | "async_generator_asend" | "async_generator_athrow" => ["send", "throw", "close"]
  | "int" =>
    ["conjugate", "bit_length", "bit_count", "to_bytes", "from_bytes", "as_integer_ratio"]
  | "float" =>
    ["conjugate", "as_integer_ratio", "fromhex", "hex", "is_integer"]
  | "complex" => ["conjugate"]
  | "property" => ["getter", "setter", "deleter"]
  | "type" => ["mro"]
  | "BaseException" => ["add_note", "with_traceback"]
  | "BaseExceptionGroup" => ["derive", "split", "subgroup"]
  | _ => []

/-- The names of special methods: each with two underlines before and after it. -/
def special (names : List String) : List String := names.map fun name => s!"__{name}__"

/-- The special methods of an operator: its own and that of the other side. -/
def bothSides (names : List String) : List String :=
  names.flatMap fun name => [s!"__{name}__", s!"__r{name}__"]

/-- The special methods that all numbers have. -/
def numberSpecials : List String :=
  bothSides ["add", "sub", "mul", "truediv", "pow"] ++ special ["neg", "pos", "abs", "bool"]

/-- The special methods that whole and real numbers have. -/
def realSpecials : List String :=
  numberSpecials ++ bothSides ["mod", "divmod", "floordiv"]
    ++ special ["int", "float", "trunc", "floor", "ceil", "round"]

/-- The special methods of an operator that works on sets. -/
def bitSpecials : List String := bothSides ["and", "or", "xor"]

/-- The special methods that rows have. -/
def rowSpecials : List String :=
  special ["add", "mul", "rmul", "contains", "getitem", "len", "iter"]

/-- The special methods that sets of both kinds have. -/
def setSpecials : List String :=
  bothSides ["and", "or", "xor", "sub"] ++ special ["contains", "len", "iter"]

/-- The special methods by which values are compared. -/
def orderSpecials : List String := special ["eq", "ne", "lt", "le", "gt", "ge"]

/-- The special methods by which values are compared, and the hash that goes with them. -/
def keySpecials : List String := special ["hash"] ++ orderSpecials

/-- The names of iterator types. -/
def isIterator (name : String) : Bool :=
  name.endsWith "iterator"
    || ["generator", "coroutine_wrapper", "map", "filter", "zip", "enumerate", "reversed"].contains name

/-- The special methods that a known type has of its own. -/
def ownSpecials (name : String) : List String :=
  match name with
  | "object" =>
    special ["init", "new", "repr", "str", "getattribute", "setattr", "delattr", "format",
      "init_subclass", "subclasshook", "dir", "sizeof", "reduce", "reduce_ex"] ++ keySpecials
  | "bool" => bitSpecials ++ special ["repr", "new"]
  | "int" =>
    realSpecials ++ bitSpecials ++ bothSides ["lshift", "rshift"]
      ++ special ["invert", "index", "repr", "new", "format"] ++ keySpecials
  | "float" => realSpecials ++ special ["repr", "new", "format"] ++ keySpecials
  | "complex" => numberSpecials ++ special ["repr", "new", "format", "complex"] ++ keySpecials
  | "str" =>
    rowSpecials ++ bothSides ["mod"] ++ special ["repr", "str", "new", "format"] ++ keySpecials
  | "bytes" => rowSpecials ++ bothSides ["mod"] ++ special ["repr", "str", "new"] ++ keySpecials
  | "bytearray" =>
    rowSpecials ++ bothSides ["mod"] ++ special ["iadd", "imul", "setitem", "delitem", "init",
      "repr", "str", "hash"] ++ orderSpecials
  | "tuple" => rowSpecials ++ special ["repr", "new", "class_getitem"] ++ keySpecials
  | "list" =>
    rowSpecials ++ special ["iadd", "imul", "setitem", "delitem", "reversed", "init", "repr",
      "class_getitem", "hash"] ++ orderSpecials
  | "dict" =>
    special ["contains", "getitem", "setitem", "delitem", "len", "iter", "reversed", "or", "ror",
      "ior", "init", "repr", "class_getitem", "hash"] ++ orderSpecials
  | "set" =>
    setSpecials ++ special ["ior", "iand", "isub", "ixor", "init", "repr", "class_getitem",
      "hash"] ++ orderSpecials
  | "frozenset" => setSpecials ++ special ["repr", "new", "class_getitem"] ++ keySpecials
  | "range" =>
    special ["contains", "getitem", "len", "iter", "reversed", "bool", "repr", "new"]
      ++ keySpecials
  | "slice" => special ["repr", "new"] ++ orderSpecials
  | "dict_keys" | "dict_items" =>
    setSpecials ++ special ["reversed", "repr"] ++ orderSpecials
  | "dict_values" => special ["len", "iter", "reversed", "repr"]
  | "mappingproxy" =>
    special ["contains", "getitem", "len", "iter", "reversed", "or", "ror", "repr"]
      ++ orderSpecials
  | "NoneType" => special ["bool", "repr", "new"]
  | "type" => special ["call", "init", "new", "repr", "or", "ror", "subclasses"]
  | "function" => special ["call", "get", "repr"]
  | "method" | "builtin_function_or_method" => special ["call", "repr"] ++ keySpecials
  | "property" => special ["get", "set", "delete", "init"]
  | "member_descriptor" | "getset_descriptor" => special ["get", "set", "delete"]
  | "BaseException" => special ["init", "new", "repr", "str"]
  | "BaseExceptionGroup" => special ["init", "new", "str", "class_getitem"]
  | "KeyError" | "OSError" | "UnicodeDecodeError" | "UnicodeEncodeError" => special ["str"]
  | "ImportError" | "SyntaxError" => special ["init", "str"]
  | "AttributeError" | "NameError" | "StopIteration" => special ["init"]
  | "coroutine" => special ["await"]
  | "async_generator" => special ["aiter", "anext"]
  | "async_generator_asend" | "async_generator_athrow" => special ["iter", "next", "await"]
  | "enumerate" => special ["iter", "next", "class_getitem"]
  | _ => if isIterator name then special ["iter", "next"] else []

/-- What values of a known type hold in a place of their own. -/
def slotFields : String → List String
  | "complex" => ["real", "imag"]
  | "range" | "slice" => ["start", "stop", "step"]
  | "property" => ["fget", "fset", "fdel"]
  | "method" => ["__func__", "__self__"]
  | "staticmethod" | "classmethod" => ["__func__", "__wrapped__"]
  | "super" => ["__thisclass__", "__self__", "__self_class__"]
  | "function" => ["__closure__", "__globals__", "__builtins__"]
  | "BaseException" => ["__suppress_context__"]
  | "BaseExceptionGroup" => ["message", "exceptions"]
  | "AttributeError" => ["name", "obj"]
  | "NameError" => ["name"]
  | "ImportError" => ["name", "path", "msg"]
  | "StopIteration" => ["value"]
  | "SystemExit" => ["code"]
  | _ => []

/-- What values of a known type tell when they are asked. -/
def askedFields : String → List String
  | "int" => ["real", "imag", "numerator", "denominator"]
  | "float" => ["real", "imag"]
  | "function" => ["__code__", "__defaults__", "__kwdefaults__"]
  | "dict_keys" | "dict_values" | "dict_items" => ["mapping"]
  | "generator" => ["gi_running"]
  | "coroutine" => ["cr_running"]
  | "async_generator" => ["ag_running"]
  | "BaseException" => ["args", "__traceback__", "__context__", "__cause__"]
  | _ => []

/-- Whether values of a known type hold or tell something under a name by the type itself. -/
def hasField (kind member : String) : Bool :=
  (slotFields kind).contains member || (askedFields kind).contains member

/-- Whether a name with that of its type before it is something that values of the type hold or
tell. -/
def isField (name : String) : Bool :=
  match Text.parts '.' name with
  | [kind, member] => hasField kind member || member == "__dict__" || member == "__weakref__"
  | _ => false

/-- What values of a known type hold or tell under a name, as it is found in the type itself. -/
def fieldOf? (kind member : String) : Option String :=
  ((lineage kind).find? (hasField · member)).map (· ++ "." ++ member)

/-- Methods that get a type first, whether they are taken from the type or from a value of it. -/
def classMethods : List String :=
  ["fromkeys", "from_bytes", "fromhex"] ++ special ["init_subclass", "subclasshook", "class_getitem"]

/-- Methods that get nothing first. -/
def staticMethods : List String := ["maketrans", "__new__"]

/-- Whether a known type has a method of its own, special or not. -/
def hasOwn (name method : String) : Bool :=
  if method.startsWith "__" then (ownSpecials name).contains method
  else (ownMethods name).contains method

/-- Whether a known type has a method. -/
def has (name method : String) : Bool := (lineage name).any (hasOwn · method)

end SnippetRunner.Evaluation.KnownType
