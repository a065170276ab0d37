import SnippetRunner.Evaluation.Native

/-!
# Arguments of known functions

How a known function, type or method takes its arguments, and what is said when they do not fit.
Fitting arguments come out in the order of the parameters, so that what is called need not look
at names again.
-/

namespace SnippetRunner.Evaluation

/-- How something known takes its arguments. -/
inductive ArgumentRule where
  /-- No arguments. -/
  | nothing
  /-- One argument by position. -/
  | single
  /-- Between two numbers of arguments by position; no greatest number if there is none. -/
  | counted (least : Nat) (most : Option Nat)
  /-- The same, where the complaint is about what is taken. -/
  | taken (least most : Nat)
  /-- First some parameters without a name, then some with one; `required` of them must be given. -/
  | named (unnamed : Nat) (parameters : List String) (required : Nat)
  /-- Between two numbers of arguments by position, and options by name; without names, anything
  can be an option. -/
  | options (least : Nat) (most : Option Nat) (names : Option (List String))

namespace ArgumentRule

/-- The ending of a counted noun. -/
def plural (n : Nat) : String := if n = 1 then "" else "s"

/-- The complaint about a number of arguments, where the bound is what is expected. -/
def expected (name bound : String) (n given : Nat) : String :=
  s!"{name} expected {bound}{n} argument{plural n}, got {given}"

/-- The complaint about a number of arguments, where the bound is what is taken. -/
def takes (name bound : String) (n : Nat) (noun : String) (given : Nat) : String :=
  s!"{name}() takes {bound} {n} {noun}argument{plural n} ({given} given)"

/-- The complaint about a number of positional arguments, if it is out of its bounds. -/
def miscount? (name : String) (least : Nat) (most : Option Nat) (given : Nat) : Option String :=
  let exact := most == some least
  if given < least then some (expected name (if exact then "" else "at least ") least given)
  else match most with
    | none => none
    | some m =>
      if m < given then some (expected name (if exact then "" else "at most ") m given) else none

/-- The complaint about a name that is no parameter. -/
def unknownName (name id : String) : String :=
  s!"'{id}' is an invalid keyword argument for {name}()"

/-- The complaint about the first name that is no parameter, if there is one. -/
def strangeName? (name : String) (names : List String) (keywords : Table) : Option String :=
  (keywords.find? fun (id, _) => ! names.contains id).map fun (id, _) => unknownName name id

/-- Arguments for parameters of which the first `unnamed` have no name, in their order. What is
left out before a given one counts as nothing. -/
def place (name : String) (unnamed : Nat) (parameters : List String) (required : Nat)
    (args : List Value) (keywords : Table) : Except String (List Value) :=
  let total := unnamed + parameters.length
  let given := args.length + keywords.length
  let slots : List (Nat × String × Option Value) := parameters.zipIdx.map fun (id, i) =>
    (unnamed + i, id, (args[unnamed + i]?).orElse fun _ => keywords.get? id)
  let unplaced := slots.find? fun (i, _, v) => i < required && v.isNone
  let twice := slots.find? fun (i, id, _) => i < args.length && (keywords.get? id).isSome
  if total < given then
    .error (takes name "at most" total (if args.isEmpty then "keyword " else "") given)
  else if args.length < min unnamed required then
    let bound := if unnamed = total then "exactly" else "at least"
    .error (takes name bound (min unnamed required) "positional " args.length)
  else match unplaced, twice, strangeName? name parameters keywords with
    | some (i, id, _), _, _ => .error s!"{name}() missing required argument '{id}' (pos {i + 1})"
    | none, some (i, id, _), _ =>
      .error s!"argument for {name}() given by name ('{id}') and position ({i + 1})"
    | none, none, some complaint => .error complaint
    | none, none, none =>
      let first := (args.take unnamed).map some
      let values := first ++ List.replicate (unnamed - first.length) none
        ++ slots.map fun (_, _, v) => v
      let kept := (values.reverse.dropWhile Option.isNone).reverse
      .ok (kept.map fun v => v.getD .none)

/-- Arguments in the order of the parameters, with the options that stay named. `owner` stands
before the name of a method where its full name is told. -/
def fit (rule : ArgumentRule) (owner name : String) (args : List Value) (keywords : Table) :
    Except String (List Value × Table) :=
  let full := owner ++ name
  let n := args.length
  let positional (complaint : Option String) : Except String (List Value × Table) :=
    if ! keywords.isEmpty then .error s!"{full}() takes no keyword arguments"
    else match complaint with
      | some text => .error text
      | none => .ok (args, [])
  match rule with
  | .nothing =>
    positional (if n = 0 then none else some s!"{full}() takes no arguments ({n} given)")
  | .single =>
    positional (if n = 1 then none else some s!"{full}() takes exactly one argument ({n} given)")
  | .counted least most => positional (miscount? name least most n)
  | .taken least most =>
    positional (if n < least then some (takes name "at least" least "" n)
      else if most < n then some (takes name "at most" most "" n)
      else none)
  | .named unnamed parameters required =>
    (place name unnamed parameters required args keywords).map fun values => (values, [])
  | .options least most names =>
    let optional : Except String (List Value × Table) :=
      match names with
      | none => .ok (args, keywords)
      | some ids =>
        if ids.length < keywords.length then
          .error (takes name "at most" ids.length "keyword " keywords.length)
        else match strangeName? name ids keywords with
          | some text => .error text
          | none => .ok (args, keywords)
    if most = some 0 ∧ 0 < n then .error s!"{name}() takes no positional arguments"
    else match miscount? name least most n with
      | some text => .error text
      | none => optional

/-- The rule of a known function. -/
def ofFunction : String → ArgumentRule
  | "sorted" => .options 1 (some 1) none
  | "iter" | "next" | "format" => .counted 1 (some 2)
  | "divmod" | "isinstance" | "issubclass" | "hasattr" | "delattr" => .counted 2 (some 2)
  | "getattr" => .counted 2 (some 3)
  | "setattr" => .counted 3 (some 3)
  | "min" | "max" => .options 1 none (some ["key", "default"])
  | "sum" => .named 1 ["start"] 1
  | "round" => .named 0 ["number", "ndigits"] 1
  | "pow" => .named 0 ["base", "exp", "mod"] 2
  | _ => .single

/-- The rule of a known type. -/
def ofType : String → ArgumentRule
  | "int" => .named 1 ["base"] 0
  | "float" | "bool" | "list" | "tuple" | "set" | "frozenset" => .counted 0 (some 1)
  | "str" => .named 0 ["object", "encoding", "errors"] 0
  | "bytes" | "bytearray" => .named 0 ["source", "encoding", "errors"] 0
  | "dict" => .options 0 (some 1) none
  | "range" | "slice" => .counted 1 (some 3)
  | "enumerate" => .named 0 ["iterable", "start"] 0
  | "zip" => .options 0 none (some ["strict"])
  | "map" => .counted 0 none
  | "filter" => .counted 2 (some 2)
  | "reversed" => .counted 1 (some 1)
  | "super" => .counted 0 (some 2)
  | "staticmethod" | "classmethod" => .counted 1 (some 1)
  | "property" => .named 0 ["fget", "fset", "fdel", "doc"] 0
  | "complex" => .named 0 ["real", "imag"] 0
  | _ => .options 0 none none

/-- The rule of a method of texts or byte strings. -/
def ofTextMethod : String → ArgumentRule
  | "strip" | "lstrip" | "rstrip" => .counted 0 (some 1)
  | "split" | "rsplit" => .named 0 ["sep", "maxsplit"] 0
  | "splitlines" => .named 0 ["keepends"] 0
  | "expandtabs" => .named 0 ["tabsize"] 0
  | "replace" => .counted 2 (some 3)
  | "startswith" | "endswith" | "find" | "rfind" | "index" | "rindex" | "count" => .taken 1 3
  | "ljust" | "rjust" | "center" => .counted 1 (some 2)
  | "encode" | "decode" => .named 0 ["encoding", "errors"] 0
  | "format" => .options 0 none none
  | "maketrans" => .counted 1 (some 3)
  | "join" | "zfill" | "removeprefix" | "removesuffix" | "partition" | "rpartition"
  | "translate" | "format_map" | "fromhex" | "append" | "extend" | "remove" => .single
  | "insert" => .counted 2 (some 2)
  | "pop" => .counted 0 (some 1)
  | "hex" => .named 0 ["sep", "bytes_per_sep"] 0
  | _ => .nothing

/-- The rule of a method of sets. -/
def ofSetMethod : String → ArgumentRule
  | "update" | "union" | "intersection" | "difference" | "intersection_update"
  | "difference_update" => .counted 0 none
  | "clear" | "copy" | "pop" => .nothing
  | _ => .single

/-- The rule of a function of the mathematical module. -/
def ofMathFunction : String → ArgumentRule
  | "gcd" | "lcm" | "hypot" => .counted 0 none
  | "pow" | "fmod" | "atan2" | "copysign" | "dist" | "ldexp" | "remainder" | "comb"
  | "nextafter" => .counted 2 (some 2)
  | "perm" => .counted 1 (some 2)
  | "prod" => .options 1 (some 1) (some ["start"])
  | "isclose" => .named 0 ["a", "b", "rel_tol", "abs_tol"] 2
  | "log" => .counted 0 none
  | _ => .single

/-- The rule of a method of a known type. -/
def ofMethod : String → String → ArgumentRule
  | "bytes", "translate" | "bytearray", "translate" => .named 1 ["delete"] 1
  | "str", name | "bytes", name | "bytearray", name => ofTextMethod name
  | "list", "clear" | "list", "reverse" | "list", "copy" => .nothing
  | "list", "insert" => .counted 2 (some 2)
  | "list", "pop" => .counted 0 (some 1)
  | "list", "index" | "tuple", "index" => .counted 1 (some 3)
  | "list", "sort" => .options 0 (some 0) (some ["key", "reverse"])
  | "dict", "get" | "dict", "pop" | "dict", "setdefault" | "dict", "fromkeys"
  | "mappingproxy", "get" => .counted 1 (some 2)
  | "dict", "update" => .options 0 (some 1) none
  | "dict", _ | "mappingproxy", _ => .nothing
  | "set", name | "frozenset", name => ofSetMethod name
  | "generator", "throw" | "coroutine", "throw" | "async_generator", "athrow"
  | "async_generator_asend", "throw" | "async_generator_athrow", "throw"
  | "coroutine_wrapper", "throw" => .counted 1 (some 3)
  | "generator", "close" | "coroutine", "close" | "async_generator", "aclose"
  | "async_generator_asend", "close" | "async_generator_athrow", "close"
  | "coroutine_wrapper", "close" => .nothing
  | "int", "to_bytes" => .named 0 ["length", "byteorder", "signed"] 0
  | "int", "from_bytes" => .named 0 ["bytes", "byteorder", "signed"] 1
  | "float", "fromhex" => .single
  | "int", _ | "float", _ | "complex", _ | "type", _ => .nothing
  | "math", name => ofMathFunction name
  | _, _ => .single

end ArgumentRule

/-- Arguments as something known takes them; where they do not fit, that is a type error. -/
def fitted (rule : ArgumentRule) (owner name : String) (args : List Value) (keywords : Table) :
    Native (List Value × Table) :=
  match rule.fit owner name args keywords with
  | .ok placed => return placed
  | .error complaint => Native.typeError complaint

end SnippetRunner.Evaluation
