import SnippetRunner.Evaluation.Method
import SnippetRunner.Evaluation.Own

/-!
# Known functions

The functions that every snippet knows by name, and what a call of any value does.
-/

namespace SnippetRunner.Evaluation

open SnippetRunner.Snippet

/-! ## Rows -/

/-- The least or the greatest of several arguments, or of the items of one. -/
def extremeOf (name : String) (args : List Value) (keywords : Table) : Native Value := do
  let standard := keywords.get? "default"
  let key := (keywords.get? "key").getD .none
  let greatest := name == "max"
  let row ← match args with
    | [single] => pure single
    | _ =>
      if standard.isSome then
        Native.typeError
          s!"Cannot specify a default for {name}() with multiple positional arguments"
      pure (.tuple args)
  let held ← match key with
    | .none => heldItems? row
    | _ => pure none
  let best ← match held with
    | some items => extreme? greatest items
    | none => extremeBy? greatest key (← iteratorOf row)
  match best, standard with
  | some v, _ | none, some v => return v
  | none, none => Native.valueError s!"{name}() arg is an empty sequence"

/-- Whether an item of a value counts as true, or as false if that is looked for; items after it
are not taken. -/
def holdsTruth (wanted : Bool) (v : Value) : Native Bool := do
  match ← heldItems? v with
  | some items => items.anyM fun item => return (← truthOf item) == wanted
  | none =>
    match ← Native.askValue (.walk (.truth wanted) (← iteratorOf v) (.bool false)) with
    | .bool found => return found
    | _ => return false

/-- The sum of items. -/
def sumOf (row start : Value) : Native Value := do
  let h ← Native.heap
  if ! h.isIterable row then
    let _ ← iteratorOf row
    return .none
  match h.core start with
  | .text _ => Native.typeError "sum() can't sum strings [use ''.join(seq) instead]"
  | .bytes _ => Native.typeError "sum() can't sum bytes [use b''.join(seq) instead]"
  | _ =>
    let held ← match row with
      | .range start stop step => do pure (some (← rangeItems start stop step))
      | _ => heldItems? row
    match held with
    | some items => items.foldlM (binary .add false) start
    | none => Native.askValue (.walk .sum (← iteratorOf row) start)

/-! ## Types -/

/-- A question whether a value, or a class, belongs to kinds: the class that is looked at, the
method by which a kind may answer itself, and what is said of something that is no kind. -/
structure Membership where
  subject : Value
  kind : Value
  function : String
  hook : String
  complaint : String

/-- Whether a value is of kinds. -/
def Membership.ofValue (h : Heap) (v : Value) : Membership :=
  ⟨v, h.typeOf v, "isinstance", "__instancecheck__",
    "isinstance() arg 2 must be a type, a tuple of types, or a union"⟩

/-- Whether a class inherits from kinds. -/
def Membership.ofClass (kind : Value) : Membership :=
  ⟨kind, kind, "issubclass", "__subclasscheck__",
    "issubclass() arg 2 must be a class, a tuple of classes, or a union"⟩

/-- The answer to a question of membership. A value of exactly the kind belongs to it, and a kind
may have its own answer for others. -/
def Membership.holds (q : Membership) : Nat → Value → Native Bool
  | 0, _ => Native.tooDeep s!" in {q.hook}"
  | fuel + 1, asked => do
    let h ← Native.heap
    if q.function == "isinstance" && Heap.sameKind q.kind asked then return true
    if h.isGeneric asked then
      Native.typeError s!"{q.function}() argument 2 cannot be a parameterized generic"
    match asked, h.unionKinds? asked, h.special? asked q.hook with
    | .tuple kinds, _, _ => kinds.anyM (q.holds fuel)
    | _, _, some method => truthOf (← askMethod asked method [q.subject])
    | .none, _, none | _, none, none => Native.typeError q.complaint
    | _, some kinds, none =>
      if kinds.any h.isGeneric then
        Native.typeError s!"{q.function}() argument 2 cannot contain a parameterized generic"
      return kinds.any (h.inherits q.kind)

/-- Whether a value is of a kind, or of one among several. -/
def isInstanceOf (v kinds : Value) : Native Bool := do
  (Membership.ofValue (← Native.heap) v).holds (← Native.room) kinds

/-! ## Characters and identities -/

/-- The character of a code. -/
def characterOf (v : Value) : Native Value := do
  let n ← wordArgument v
  if 0 ≤ n ∧ n < 0x110000 then return .text (Text.charOf n.toNat).toString
  else Native.valueError "chr() arg not in range(0x110000)"

/-- The code of a character. -/
def codeOf (v : Value) : Native Value := do
  let strange (size : Nat) : Native Value :=
    Native.typeError s!"ord() expected a character, but string of length {size} found"
  let h ← Native.heap
  match h.core v with
  | .text s =>
    match s.toList with
    | [c] => return .int (Text.codeOf c)
    | cs => strange cs.length
  | .bytes [b] => return .int b.toNat
  | .bytes bs => strange bs.length
  | _ => Native.typeError s!"ord() expected string of length 1, but {h.typeName v} found"

mutual

/-- A number that tells a value from all others; values that are told by their parts are told
apart by those of their parts. -/
def identityNumber : Value → Native Int
  | .ref address => return addressNumber address
  | .tuple items => do
    return addressNumber (10000000 + (rowHash (← identityNumbers items)).natAbs % 1000000000)
  | .slice _ _ _ => return addressNumber 9000000
  | .method self name => do
    let whole := rowHash [← identityNumber self, nameHash name]
    return addressNumber (10000000 + whole.natAbs % 1000000000)
  | .bound self function => do
    let whole := rowHash [← identityNumber self, ← identityNumber function]
    return addressNumber (10000000 + whole.natAbs % 1000000000)
  | v => do return addressNumber (10000000 + (← hashOf v).natAbs % 1000000000)

/-- The numbers of several values. -/
def identityNumbers : List Value → Native (List Int)
  | [] => return []
  | v :: rest => do
    let number ← identityNumber v
    return number :: (← identityNumbers rest)

end

/-- What tells a value from all others. -/
def identityOf (v : Value) : Native Value := do return .int (← identityNumber v)

/-! ## Functions -/

/-- A known function of rows, with fitting arguments. -/
def callOnRow (name : String) (args : List Value) (keywords : Table) : Native Value := do
  let h ← Native.heap
  match name, args with
  | "len", [v] => return .int (← lengthOf v)
  | "sorted", [v] =>
    let made ← Native.askObject (.list (← itemsOf v).toArray)
    let (_, keywords) ← fitted (ArgumentRule.ofMethod "list" "sort") "" "sort" [] keywords
    sortList made keywords
    return .ref made
  | "iter", [v] => iteratorOf v
  | "iter", [f, sentinel] =>
    if h.isCallable f then Native.allocate (.iterator (.untilSentinel f sentinel))
    else Native.typeError "iter(v, w): v must be callable"
  | "next", v :: rest =>
    if ! h.isIterator v then Native.typeError s!"'{h.typeName v}' object is not an iterator"
    match ← nextOf v, rest with
    | .ended _ _, standard :: _ => return standard
    | taken, _ => taken.orFail
  | "min", _ | "max", _ => extremeOf name args keywords
  | "sum", v :: rest => sumOf v (rest.headD (.int 0))
  | "all", [v] => return .bool (! (← holdsTruth false v))
  | "any", [v] => return .bool (← holdsTruth true v)
  | _, _ => Native.unavailable name

/-- A known function of numbers, with fitting arguments. -/
def callOnNumber (name : String) (args : List Value) : Native Value := do
  match name, args with
  | "abs", [v] => absoluteOf v
  | "round", v :: rest => roundOf v (rest.headD .none)
  | "pow", v :: w :: rest => powOf v w (rest.headD .none)
  | "divmod", [v, w] => quotientAndRest v w
  | "chr", [v] => characterOf v
  | "ord", [v] => codeOf v
  | "bin", [v] => inBase 2 "0b" v
  | "hex", [v] => inBase 16 "0x" v
  | "oct", [v] => inBase 8 "0o" v
  | _, _ => Native.unavailable name

/-- A known function of members and types, with fitting arguments. -/
def callOnMember (name : String) (args : List Value) : Native Value := do
  let h ← Native.heap
  match name, args with
  | "isinstance", [v, kinds] => return .bool (← isInstanceOf v kinds)
  | "issubclass", [kind, kinds] =>
    if ! h.isKind kind then Native.typeError "issubclass() arg 1 must be a class"
    return .bool (← (Membership.ofClass kind).holds (← Native.room) kinds)
  | "hasattr", [v, id] => return .bool (← memberOf? v (← nameArgument id)).isSome
  | "getattr", [v, id] => memberOf v (← nameArgument id)
  | "getattr", [v, id, standard] => return (← memberOf? v (← nameArgument id)).getD standard
  | "setattr", [v, id, member] =>
    setMember v (← nameArgument id) member
    return .none
  | "delattr", [v, id] =>
    deleteMember v (← nameArgument id)
    return .none
  | _, _ => Native.unavailable name

/-- Calls a known function. -/
def callKnown (name : String) (args : List Value) (keywords : Table) : Native Value := do
  let (args, keywords) ← fitted (ArgumentRule.ofFunction name) "" name args keywords
  match name, args with
  | "hash", [v] => return .int (← hashOf v)
  | "id", [v] => identityOf v
  | "callable", [v] => return .bool ((← Native.heap).isCallable v)
  | "repr", [v] => return .text (← inspect v)
  | "ascii", [v] => return .text (Text.asciiOnly (← inspect v))
  | "format", [v] => return .text (← formatted v "")
  | "format", [v, layout] =>
    return .text (← formatted v (← textArgument "format() argument 2 " layout))
  | "print", _ =>
    -- that of the host writes elsewhere
    let _ ← args.mapM textOf
    return .none
  | _, _ =>
    if ["len", "sorted", "iter", "next", "min", "max", "sum", "all", "any"].contains name then
      callOnRow name args keywords
    else if ["isinstance", "issubclass", "hasattr", "getattr", "setattr", "delattr"].contains name
    then callOnMember name args
    else callOnNumber name args

/-! ## Calls -/

/-- Calls what is known by name: a function, or a method of a known type. -/
def callNamed (name : String) (args : List Value) (keywords : Table) : Native Value := do
  match Text.parts '.' name with
  | ["math", function] =>
    let (args, keywords) ←
      fitted (ArgumentRule.ofMethod "math" function) "math." function args keywords
    callMath function args keywords
  | [owner, method] =>
    if (libraryFunctions.lookup owner).isSome then callLibrary owner method args
    else if KnownType.staticMethods.contains method then callStatic owner method args keywords
    else callUnbound owner method args keywords
  | _ => callKnown name args keywords

/-- Calls a value. -/
def invoke (callee : Value) (args : List Value) (keywords : Table) : Native Value := do
  let h ← Native.heap
  let bySpecial (other : Native Value) : Native Value :=
    match h.special? callee "__call__" with
    | some method => askMethodWith callee method args keywords
    | none => other
  let refuse : Native Value := Native.typeError s!"'{h.typeName callee}' object is not callable"
  match callee with
  | .type _ => callType callee args keywords
  | .builtin name => if KnownType.isField name then refuse else callNamed name args keywords
  | .method self name => callMethod self name args keywords
  | .bound self function => Native.askValue (.call function (self :: args) keywords)
  | .own binding => callOwn binding args keywords
  | .ref address =>
    match h.get? address with
    | some (.function f) => enterFunction f args keywords
    | some (.class_ _) => bySpecial (callType callee args keywords)
    | some (.wrapped .static f) => Native.askValue (.call f args keywords)
    | some (.generic origin _) => Native.askValue (.call origin args keywords)
    | some (.instance_ _ _ _) | some (.error _) => bySpecial refuse
    | _ => refuse
  | _ => refuse

end SnippetRunner.Evaluation
