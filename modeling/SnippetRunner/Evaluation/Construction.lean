import SnippetRunner.Evaluation.ArgumentRule
import SnippetRunner.Evaluation.Group
import SnippetRunner.Evaluation.Method.Bytes
import SnippetRunner.Evaluation.Method.Keyed

/-!
# Values of known types

What a known type makes of the arguments of a call.
-/

namespace SnippetRunner.Evaluation

/-! ## Numbers -/

/-- An argument of `complex` as a complex number, by its class or because it is a number. -/
def complexArgument (place : String) (v : Value) : Native Number.Complex := do
  let h ← Native.heap
  let told ← match h.special? v "__complex__" with
    | none => pure (h.core v)
    | some method =>
      let answer ← askMethod v method []
      match (← Native.heap).core answer with
      | .complex re im => pure (.complex re im)
      | _ =>
        let typeName := (← Native.heap).typeName answer
        Native.typeError s!"{h.typeName v}.__complex__ returned non-complex (type {typeName})"
  match told with
  | .complex re im => return ⟨re, im⟩
  | _ =>
    match ← realOf? v with
    | some x => return ⟨x, 0.0⟩
    | none =>
      let also := if place == "first" then "a string or " else ""
      Native.typeError s!"complex() {place} argument must be {also}a number, not '{h.typeName v}'"

/-- A complex number from its arguments. -/
def makeComplex (args : List Value) : Native Value := do
  let h ← Native.heap
  let made (c : Number.Complex) : Value := .complex c.re c.im
  match args, (args.head?).bind h.text?, (args[1]?).bind h.text? with
  | [], _, _ => return .complex 0.0 0.0
  | [_], some s, _ =>
    match Number.Complex.read? s with
    | some c => return made c
    | none => Native.valueError "complex() arg is a malformed string"
  | _, some _, _ => Native.typeError "complex() can't take second arg if first is a string"
  | _, none, some _ => Native.typeError "complex() second arg can't be a string"
  | [v], none, none => return made (← complexArgument "first" v)
  | v :: w :: _, none, none =>
    let a ← complexArgument "first" v
    let b ← complexArgument "second" w
    let re := if isComplex (h.core w) then a.re - b.im else a.re
    let im := if isComplex (h.core v) then a.im + b.re else b.re
    return .complex re im

/-- A range from its arguments. -/
def makeRange (args : List Value) : Native Value := do
  match ← args.mapM intArgument with
  | [stop] => return .range 0 stop 1
  | [start, stop] => return .range start stop 1
  | [start, stop, step] =>
    if step = 0 then Native.valueError "range() arg 3 must not be zero"
    else return .range start stop step
  | _ => Native.unavailable "range"

/-! ## Texts and byte strings -/

/-- The bytes that a value stands for: so many zeros, or its items. -/
def bytesFrom (owner : String) (v : Value) : Native Value := do
  let h ← Native.heap
  match h.core v with
  | .text _ => Native.typeError "string argument without an encoding"
  | .bytes bs => return .bytes bs
  | _ =>
    match ← indexOf? v with
    | some n =>
      if isSize n && n < 0 then Native.valueError "negative count"
      let size ← repetitions n
      checkRoom size
      return .bytes (List.replicate size 0)
    | none =>
      if ! h.isIterable v then
        Native.typeError s!"cannot convert '{h.typeName v}' object to {owner}"
      let ns ← (← itemsOf v).mapM intArgument
      if ns.all fun n => 0 ≤ n ∧ n < 256 then return .bytes (ns.map fun n => n.toNat.toUInt8)
      else
        let noun := if owner == "bytes" then "bytes" else "byte"
        Native.valueError s!"{noun} must be in range(0, 256)"

/-- A byte string from its arguments. -/
def makeBytes (owner : String) (args : List Value) : Native Value := do
  let h ← Native.heap
  match args, (args.head?).bind h.text? with
  | [], _ => return .bytes []
  | [v], _ =>
    match if owner == "bytes" then h.special? v "__bytes__" else none with
    | none => bytesFrom owner v
    | some method =>
      match ← askMethod v method [] with
      | .bytes bs => return .bytes bs
      | answer =>
        let typeName := (← Native.heap).typeName answer
        Native.typeError s!"__bytes__ returned non-bytes (type {typeName})"
  | _ :: _, some s =>
    let (codec, errors) ← codecArguments owner (args.drop 1)
    return .bytes (← encoded s codec errors)
  | _ :: _, none => Native.typeError "encoding without a string argument"

/-- A text from bytes and the arguments that tell how to read them. -/
def decodedText (v : Value) (codec : List Value) : Native Value := do
  let given := match codec with
    | .none :: rest => .text "utf-8" :: rest
    | _ => codec
  let (codec, errors) ← codecArguments "str" given
  match (← Native.heap).core v with
  | .bytes bs => return .text (← decoded bs codec errors)
  | .text _ => Native.typeError "decoding str is not supported"
  | _ =>
    let typeName := (← Native.heap).typeName v
    Native.typeError s!"decoding to str: need a bytes-like object, {typeName} found"

/-! ## Containers and wrappers -/

/-- A new set with the items of a value. -/
def makeSet (frozen : Bool) (args : List Value) : Native Value := do
  let made ← Native.askObject (.set frozen {})
  for v in args do insertInto made v
  return .ref made

/-- A new mapping with the entries of a value and some named ones. -/
def makeMapping (args : List Value) (keywords : Table) : Native Value := do
  let made ← Native.askObject (.mapping {})
  for v in args do mergeInto made v
  modifyMapping made fun t => keywords.foldl (fun t (id, v) => t.putText id v) t
  return .ref made

/-- A view of a value from a type further along the line of its class; without a value it is one
that belongs to none. -/
def makeSuper (start self : Value) : Native Value := do
  let h ← Native.heap
  if ! h.isKind start then
    Native.typeError s!"super() argument 1 must be a type, not {h.typeName start}"
  match self with
  | .none => Native.allocate (.super start .none)
  | _ =>
    if (h.isKind self && h.inherits self start) || h.inherits (h.typeOf self) start then
      Native.allocate (.super start self)
    else Native.typeError "super(type, obj): obj must be an instance or subtype of type"

/-- What a known type that is no kind of error makes of arguments that fit. -/
def makeFitted (name : String) (args : List Value) (keywords : Table) : Native Value := do
  let h ← Native.heap
  let iterator (it : Iterator) : Native Value := Native.allocate (.iterator it)
  match name, args with
  | "int", [] => return .int 0
  | "int", [v] => return .int (← intOf v)
  | "int", [v, base] => return .int (← intInBase v base)
  | "float", [] => return .float 0.0
  | "float", [v] =>
    match h.core v with
    | .nan mark => return .nan mark
    | _ => return .float (← floatOf v)
  | "complex", _ => makeComplex args
  | "str", [] => return .text ""
  | "str", [v] => return .text (← textOf v)
  | "str", v :: codec => decodedText v codec
  | "bool", [] => return .bool false
  | "bool", [v] => return .bool (← truthOf v)
  | "list", [] => newList []
  | "list", [v] => newList (← itemsOf v)
  | "tuple", [] => return .tuple []
  | "tuple", [v] => return .tuple (← itemsOf v)
  | "set", _ => makeSet false args
  | "frozenset", _ => makeSet true args
  | "dict", _ => makeMapping args keywords
  | "bytes", _ => makeBytes name args
  | "bytearray", _ =>
    match ← makeBytes name args with
    | .bytes bs => Native.allocate (.buffer bs)
    | other => return other
  | "object", _ =>
    if args.isEmpty && keywords.isEmpty then Native.allocate .plain
    else Native.typeError "object() takes no arguments"
  | "property", _ =>
    let part (i : Nat) : Value := (args[i]?).getD .none
    Native.allocate (.property (part 0) (part 1) (part 2))
  | "staticmethod", [f] => Native.allocate (.wrapped .static f)
  | "classmethod", [f] => Native.allocate (.wrapped .ofClass f)
  | "super", start :: rest => makeSuper start (rest.headD .none)
  | "super", _ => Native.fail "RuntimeError" "super(): no arguments"
  | "range", _ => makeRange args
  | "enumerate", [] => Native.typeError "enumerate() missing required argument 'iterable'"
  | "enumerate", v :: rest =>
    let count ← match rest with
      | [] => pure 0
      | n :: _ => intArgument n
    iterator (.enumerate (← iteratorOf v) count)
  | "zip", _ =>
    let strict ← truthOf ((keywords.get? "strict").getD (.bool false))
    iterator (.zip (← args.mapM iteratorOf) strict)
  | "map", f :: rest@(_ :: _) => iterator (.map f (← rest.mapM iteratorOf))
  | "map", _ => Native.typeError "map() must have at least two arguments."
  | "filter", [f, v] => iterator (.filter f (← iteratorOf v))
  | "reversed", [v] => reversedOf v
  | "slice", [stop] => return .slice .none stop .none
  | "slice", [start, stop] => return .slice start stop .none
  | "slice", [start, stop, step] => return .slice start stop step
  | "NoneType", [] => return .none
  | "NotImplementedType", [] => return .notImplemented
  | "ellipsis", [] => return .ellipsis
  | "NoneType", _ | "NotImplementedType", _ => Native.typeError s!"{name} takes no arguments"
  | "ellipsis", _ => Native.typeError "EllipsisType takes no arguments"
  | "function", _ => Native.typeError "function() missing required argument 'code' (pos 1)"
  | "mappingproxy", _ | "method", _ | "module", _ => Native.unavailable name
  | _, _ => Native.typeError s!"cannot create '{name}' instances"

/-- What a known type that is no kind of error makes of the arguments of a call. -/
def makeKnown (name : String) (args : List Value) (keywords : Table) : Native Value := do
  let (fitting, named) ← fitted (ArgumentRule.ofType name) "" name args keywords
  if name == "int" && args.isEmpty && ! fitting.isEmpty then
    Native.typeError "int() missing string argument"
  makeFitted name fitting named

/-! ## Errors -/

/-- The names that a kind of error takes for what it tells beyond its arguments, and how the kind
is named in complaints. -/
def errorOptions (h : Heap) (kind : Value) : Option (String × List String) :=
  [("ImportError", ["name", "path"]), ("AttributeError", ["name", "obj"]),
    ("NameError", ["name"])].find? fun (known, _) => h.inherits kind (.type known)

/-- What an error of a kind tells beyond its arguments when it is made. -/
def errorDetails (kind : Value) (keywords : Table) : Native Table := do
  let h ← Native.heap
  match errorOptions h kind with
  | none =>
    if keywords.isEmpty then return []
    else Native.typeError s!"{h.kindName kind}() takes no keyword arguments"
  | some (owner, names) =>
    match ArgumentRule.strangeName? owner names keywords with
    | some complaint => Native.typeError complaint
    | none => return keywords

/-- A new error of a known kind. -/
def makeError (kind : Value) (args : List Value) (keywords : Table) : Native Value := do
  let details ← errorDetails kind keywords
  if (← Native.heap).inherits kind groupKind then
    Native.allocate (.error (← groupFrom kind args))
  else Native.allocate (.error { kind, args, details })

end SnippetRunner.Evaluation
