import SnippetRunner.Evaluation.Method.Number
import SnippetRunner.Evaluation.Method.Special

/-!
# Methods of known types

Which known type a method belongs to, how its arguments are taken, and what a call of it does.
-/

namespace SnippetRunner.Evaluation

/-- The known type, along the line of a value's type, that has a method. -/
def Heap.methodOwner? (h : Heap) (self : Value) (name : String) : Option String :=
  let kind := if KnownType.classMethods.contains name then self else h.typeOf self
  (h.lineage kind).findSome? fun
    | .type known => if KnownType.hasOwn known name then some known else none
    | _ => none

/-! ## Errors, properties and types -/

/-- Adds a note to an error. -/
def addNote (address : Nat) (note : Value) : Native Value := do
  let h ← Native.heap
  if (h.text? note).isNone then
    Native.typeError s!"note must be a str, not '{h.typeName note}'"
  match (h.attributes address).get? "__notes__" with
  | none =>
    let list ← newList [note]
    Native.modifyHeap fun h => h.mapAttributes address (·.put "__notes__" list)
    return .none
  | some notes =>
    match h.list? notes, h.core notes with
    | some _, .ref list =>
      modifyList list (·.push note)
      return .none
    | _, _ => Native.typeError "Cannot add note: __notes__ is not a list"

/-- A method of an error. -/
def errorMethod (address : Nat) (name : String) (args : List Value) : Native Value := do
  match name, args with
  | "add_note", [note] => addNote address note
  | "derive", [arg] | "split", [arg] | "subgroup", [arg] => groupMethod address name arg
  | "with_traceback", [trace] =>
    let frames ← traceFrames trace
    Native.modifyHeap fun h => h.mapError address fun e => { e with frames }
    return .ref address
  | _, _ => Native.unavailable name

/-- A property with another part. -/
def propertyMethod (getter setter deleter : Value) (name : String) (f : Value) : Native Value :=
  Native.allocate (match name with
    | "getter" => .property f setter deleter
    | "setter" => .property getter f deleter
    | _ => .property getter setter f)

/-- A method that gets a type first. -/
def classMethod (owner : String) (kind : Value) (name : String) (args : List Value) :
    Native Value := do
  let made (v : Value) : Native Value :=
    match kind with
    | .type _ => return v
    | _ => Native.askCall kind [v]
  match owner, name, args with
  | _, "fromkeys", keys :: rest => mappingFrom kind keys (rest.headD .none)
  | "bytes", "fromhex", [v] => made (← bytesFromHex v)
  | "bytearray", "fromhex", [v] =>
    match ← bytesFromHex v with
    | .bytes bs => made (← Native.allocate (.buffer bs))
    | other => return other
  | "float", "fromhex", [v] => made (← floatFromHex v)
  | _, "from_bytes", _ => made (← intOfBytes args)
  | _, _, _ => Native.unavailable name

/-! ## Calls -/

/-- A method of a known type that is no special one, with fitting arguments. -/
def fittedMethod (owner : String) (self : Value) (name : String) (args : List Value)
    (keywords : Table) : Native Value := do
  let h ← Native.heap
  if KnownType.classMethods.contains name then classMethod owner self name args
  else match h.core self with
    | .text s => textMethod s name args keywords
    | .bytes bs =>
      match h.buffer? self with
      | some (address, _) => bufferMethod self address bs name args
      | none => bytesMethod self bs name args
    | .tuple items => tupleMethod items name args
    | .range start stop step => rangeMethod start stop step name args
    | .slice lower upper step => sliceIndices lower upper step (args.headD .none)
    | .complex re im => return .complex re im
    | .type _ => newList (h.lineage self)
    | .ref address =>
      match h.get? address with
      | some (.list _) => listMethod address name args keywords
      | some (.mapping _) | some (.names _) | some (.members _ _) =>
        mappingMethod address name args keywords
      | some (.set frozen _) => setMethod address frozen name args
      | some (.view _ _) => viewMethod self name args
      | some (.generator .asyncGenerator _ _) => asyncGeneratorMethod address name args
      | some (.generator _ _ _) => generatorMethod address name args
      | some (.iterator (.waiting coroutine)) => generatorMethod coroutine name args
      | some (.iterator (.asyncStep _ _ _ _ _ _ _)) => stepMethod address name args
      | some (.error _) => errorMethod address name args
      | some (.property getter setter deleter) =>
        propertyMethod getter setter deleter name (args.headD .none)
      | some (.class_ _) => newList (h.lineage self)
      | _ => Native.unavailable name
    | v =>
      match v.int?, v.float? with
      | some n, _ => intMethod n name args
      | none, some x => floatMethod x name
      | none, none => Native.unavailable name

/-- A method of a known type for a value of it. -/
def callOwned (owner : String) (self : Value) (name : String) (args : List Value)
    (keywords : Table) : Native Value := do
  if name.startsWith "__" then specialMethod owner self (specialStem name) args keywords
  else
    let (args, keywords) ←
      fitted (ArgumentRule.ofMethod owner name) (owner ++ ".") name args keywords
    fittedMethod owner self name args keywords

/-- Calls a method of a value. -/
def callMethod (self : Value) (name : String) (args : List Value) (keywords : Table) :
    Native Value := do
  match (← Native.heap).methodOwner? self name with
  | some owner => callOwned owner self name args keywords
  | none => Native.unavailable name

/-- Calls a method that was taken from a known type itself. -/
def callUnbound (owner name : String) (args : List Value) (keywords : Table) : Native Value := do
  let h ← Native.heap
  let special := name.startsWith "__"
  match args with
  | [] =>
    if special then Native.typeError s!"descriptor '{name}' of '{owner}' object needs an argument"
    else Native.typeError s!"unbound method {owner}.{name}() needs an argument"
  | self :: rest =>
    if h.inherits (h.typeOf self) (.type owner) then callOwned owner self name rest keywords
    else if special then
      Native.typeError
        s!"descriptor '{name}' requires a '{owner}' object but received a '{h.typeName self}'"
    else
      Native.typeError
        (s!"descriptor '{name}' for '{owner}' objects doesn't apply to a "
          ++ s!"'{h.typeName self}' object")

/-- Calls a method of a known type that gets no value of it. -/
def callStatic (owner name : String) (args : List Value) (keywords : Table) : Native Value := do
  match name, args with
  | "__new__", [] => Native.typeError s!"{owner}.__new__(): not enough arguments"
  | "__new__", kind :: rest =>
    let h ← Native.heap
    if h.isKind kind then newValue kind rest keywords
    else
      Native.typeError s!"{owner}.__new__(X): X is not a type object ({h.typeName kind})"
  | _, _ =>
    if owner == "str" then
      let (args, _) ← fitted (ArgumentRule.ofTextMethod name) "str." name args keywords
      characterTable args
    else
      let (args, _) ← fitted (.counted 2 (some 2)) (owner ++ ".") name args keywords
      byteTable (args.headD .none) ((args[1]?).getD .none)

end SnippetRunner.Evaluation
