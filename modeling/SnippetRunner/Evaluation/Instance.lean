import SnippetRunner.Evaluation.Ancestry
import SnippetRunner.Evaluation.Construction
import SnippetRunner.Evaluation.Names

/-!
# Making classes and their values

A class is made from the names of its body. Its members are told which name they have, and the
class it inherits from is told about it. A value of a class is made by one method and filled by
another one, each found along the line of the class.
-/

namespace SnippetRunner.Evaluation

/-! ## Classes -/

/-- The attributes of a class from the names of its body. Without a hash of its own, a class that
says what is equal to its values has values without a hash. -/
def classAttributes (names : Table) : Table :=
  let names := names.erase "__qualname__"
  let named := if names.has "__module__" then names
    else names ++ [("__module__", .text "__main__")]
  if named.has "__eq__" && ! named.has "__hash__" then named ++ [("__hash__", .none)] else named

/-- Tells a member of a class which name it has. -/
def tellName (kind : Value) (className id : String) (member : Value) : Native Unit := do
  match (← Native.heap).special? member "__set_name__" with
  | none => return
  | some method =>
    match ← Native.tryAsk (.call method [member, kind, .text id] []) with
    | .ok _ => return
    | .error error =>
      let owner := (← Native.heap).typeName member
      let text :=
        s!"Error calling __set_name__ on '{owner}' instance '{id}' in '{className}'"
      let made ← Native.askObject (.error
        { kind := .type "RuntimeError", args := [.text text]
          cause := some error, context := some error, suppress := true })
      throw (.fail made false)

/-- Tells the types that a class inherits from about it. -/
def tellBases (kind : Value) (className : String) (keywords : Table) : Native Unit := do
  let h ← Native.heap
  let told (f : Value) : Native Unit := do
    let _ ← Native.askValue (.call f [kind] keywords)
    return
  match h.memberAlong? "__init_subclass__" ((h.lineage kind).drop 1) with
  | some (.ref address) =>
    match h.get? address with
    | some (.wrapped _ f) => told f
    | _ => told (.ref address)
  | _ =>
    if ! keywords.isEmpty then
      Native.typeError s!"{className}.__init_subclass__() takes no keyword arguments"

/-- The name of an attribute that a class lists. -/
def slotName (v : Value) : Native String := do
  match v with
  | .text id =>
    if Text.isIdentifier id then return id
    else Native.typeError "__slots__ must be identifiers"
  | _ =>
    Native.typeError s!"__slots__ items must be strings, not '{(← Native.heap).typeName v}'"

/-- The attributes that a class lists, under the names that they have in it; those that it cannot
list are refused. -/
def slotsOf? (name : String) (bases : List Value) (names : Table) :
    Native (Option (List String)) := do
  match names.get? "__slots__" with
  | none => return none
  | some given =>
    let items ← match given with
      | .text _ => pure [given]
      | _ => itemsOf given
    let h ← Native.heap
    let sized := bases.find? fun base => ["int", "tuple", "bytes", "type"].contains (h.formOf base)
    if let some base := sized then
      if ! items.isEmpty then
        Native.typeError s!"nonempty __slots__ not supported for subtype of '{h.kindName base}'"
    let ids := (← items.mapM slotName).map (privateName (some name))
    for (id, lets) in [("__dict__", h.letsAttributes), ("__weakref__", h.letsReferences)] do
      let above := bases.any fun base => (h.lineage base).any lets
      if ids.count id > (if above then 0 else 1) then
        Native.typeError s!"{id} slot disallowed: we already got one"
    for id in ids do
      if names.has id && id != "__qualname__" then
        Native.valueError s!"{Text.quoted id} in __slots__ conflicts with class variable"
    return some ids

/-- Gives a class a member for each attribute that it lists, in order. -/
def makeSlots (owner : Nat) (slots : List String) : Native Unit := do
  for id in slots.mergeSort (fun a b => decide (a ≤ b)) do
    if id != "__dict__" && id != "__weakref__" then
      let slot ← Native.allocate (.slot owner id)
      Native.modifyHeap fun h => h.mapAttributes owner (·.put id slot)

/-- Makes a class. `cell` is the scope in which its methods find it. -/
def newClass (metaclass : Value) (name : String) (bases : List Value) (names keywords : Table)
    (cell : Option Nat) : Native Value := do
  let h ← Native.heap
  match h.basesFault? bases with
  | some fault => Native.typeError fault
  | none =>
    let slots ← slotsOf? name bases names
    let qualname ← match names.get? "__qualname__" with
      | none => pure name
      | some (.text s) => pure s
      | some v => Native.typeError s!"type __qualname__ must be a str, not {h.typeName v}"
    let attributes := classAttributes names
    let address ← Native.askObject (.class_ { name, qualname, bases, attributes, slots, metaclass })
    makeSlots address (slots.getD [])
    match cell with
    | some scope => Native.modifyHeap fun h => h.mapScope scope (·.put "__class__" (.ref address))
    | none => pure ()
    for (id, member) in attributes do tellName (.ref address) name id member
    tellBases (.ref address) name keywords
    return .ref address

/-- Makes a class of the names that its body left in a scope. The last values are those of its
options. -/
def buildClass (name : String) (cell scope : Nat) (options : List String) (values : List Value) :
    Native Value := do
  let h ← Native.heap
  let count := values.length - options.length
  let bases := values.take count
  let given : Table := options.zip (values.drop count)
  let keywords := given.erase "metaclass"
  let names := ((h.scope? scope).map (·.table)).getD []
  match h.metaclassOf (given.get? "metaclass") bases with
  | .error fault => Native.typeError fault
  | .ok (.type "type") => newClass (.type "type") name bases names keywords (some cell)
  | .ok metaclass =>
    let body ← Native.askObject (.mapping (.ofTable names))
    let made ← Native.askValue
      (.call metaclass [.text name, .tuple bases, .ref body] keywords)
    if (← Native.heap).isKind made then
      Native.modifyHeap fun h => h.mapScope cell (·.put "__class__" made)
    return made

/-- Makes a class from a name, a tuple of types and a mapping. -/
def classFrom (metaclass : Value) (args : List Value) (keywords : Table) : Native Value := do
  let h ← Native.heap
  let misfit (i : Nat) (wanted : String) (v : Value) : Native Value :=
    Native.typeError s!"type.__new__() argument {i} must be {wanted}, not {h.typeName v}"
  match args with
  | [name, bases, body] =>
    match h.text? name, h.core bases, h.mapping? body with
    | some id, .tuple bases, some entries =>
      let names : Table := entries.entries.filterMap fun e =>
        match e.key with
        | .text id => some (id, e.value)
        | _ => none
      match h.metaclassOf (some metaclass) bases with
      | .error fault => Native.typeError fault
      | .ok metaclass => newClass metaclass id bases names keywords none
    | none, _, _ => misfit 1 "str" name
    | _, .tuple _, none => misfit 3 "dict" body
    | _, _, _ => misfit 2 "tuple" bases
  | _ => Native.typeError "type() takes 1 or 3 arguments"

/-! ## Values of classes -/

/-- Whether a class gets a special method from the snippet. -/
def Heap.overrides (h : Heap) (kind : Value) (name : String) : Bool :=
  match h.lineMember? name (h.lineage kind) with
  | some (.builtin _) | none => false
  | some _ => true

/-- A value of a class, not filled yet. What a value of a known type is made of is there. -/
def newValue (kind : Value) (args : List Value) (keywords : Table) : Native Value := do
  let h ← Native.heap
  match kind with
  | .ref address =>
    let filled (content : Value) : Native Value := do
      return .ref (← Native.askObject (.instance_ address [] content))
    let form := h.formOf kind
    if h.inherits kind groupKind then
      return .ref (← Native.askObject (.error (← groupFrom kind args)))
    else if Fault.isKind form then return .ref (← Native.askObject (.error { kind, args }))
    else match form with
      | "object" =>
        if ! args.isEmpty || ! keywords.isEmpty then
          if h.overrides kind "__new__" then
            Native.typeError
              "object.__new__() takes exactly one argument (the type to instantiate)"
          else if ! h.overrides kind "__init__" then
            Native.typeError s!"{h.kindName kind}() takes no arguments"
        filled .none
      | "list" => filled (.ref (← Native.askObject (.list #[])))
      | "dict" => filled (.ref (← Native.askObject (.mapping {})))
      | "set" => filled (.ref (← Native.askObject (.set false {})))
      | "type" => classFrom kind args keywords
      | _ => filled (← makeKnown form args keywords)
  | .type "type" => classFrom kind args keywords
  | .type name =>
    if Fault.isKind name then makeError kind args [] else makeKnown name args keywords
  | _ => Native.typeError s!"object.__new__(X): X is not a type object ({h.typeName kind})"

/-- Fills a value by the rules of a known type. -/
def fillCore (owner : String) (self : Value) (args : List Value) (keywords : Table) :
    Native Unit := do
  let h ← Native.heap
  let kind := h.typeOf self
  match owner, h.core self with
  | "list", .ref address =>
    let (args, _) ← fitted (ArgumentRule.ofType "list") "" "list" args keywords
    Native.once (modifyList address fun _ => #[])
    for v in args do appendTo address v
  | "dict", .ref address =>
    let (args, keywords) ← fitted (ArgumentRule.ofType "dict") "" "dict" args keywords
    for v in args do mergeInto address v
    modifyMapping address fun t => keywords.foldl (fun t (id, v) => t.putText id v) t
  | "set", .ref address =>
    let (args, _) ← fitted (ArgumentRule.ofType "set") "" "set" args keywords
    Native.once (modifySet address fun _ => {})
    for v in args do insertInto address v
  | "object", _ =>
    if ! args.isEmpty || ! keywords.isEmpty then
      let complaint := "takes exactly one argument (the instance to initialize)"
      if h.overrides kind "__init__" then
        Native.typeError s!"object.__init__() {complaint}"
      else if ! h.overrides kind "__new__" && h.formOf kind == "object" then
        Native.typeError s!"{h.kindName kind}.__init__() {complaint}"
  | _, .ref address =>
    if (h.error? address).isSome then
      let details ← errorDetails kind keywords
      Native.modifyHeap fun h => h.mapError address fun e =>
        { e with args, details := if h.inherits kind groupKind then e.details else details }
  | _, _ => return

/-- Makes and fills a value of a class. -/
def instantiate (kind : Value) (args : List Value) (keywords : Table) : Native Value := do
  let h ← Native.heap
  let made ← match h.lineMember? "__new__" (h.lineage kind) with
    | some (.builtin _) | none => newValue kind args keywords
    | some (.ref address) =>
      let f := match h.get? address with
        | some (.wrapped _ f) => f
        | _ => .ref address
      Native.askValue (.call f (kind :: args) keywords)
    | some member => Native.askValue (.call member (kind :: args) keywords)
  let h ← Native.heap
  if ! h.inherits (h.typeOf made) kind then return made
  else match h.lineMember? "__init__" (h.lineage (h.typeOf made)) with
    | some (.builtin function) =>
      fillCore ((Text.parts '.' function).headD "object") made args keywords
      return made
    | none => return made
    | some method =>
      match ← Native.askValue (.call method (made :: args) keywords) with
      | .none => return made
      | v =>
        let typeName := (← Native.heap).typeName v
        Native.typeError s!"__init__() should return None, not '{typeName}'"

/-- What a type makes of the arguments of a call. -/
def callType (kind : Value) (args : List Value) (keywords : Table) : Native Value := do
  match kind, args with
  | .type "type", [v] =>
    if keywords.isEmpty then return (← Native.heap).typeOf v
    else Native.typeError "type() takes 1 or 3 arguments"
  | .type "type", _ => classFrom kind args keywords
  | .type name, _ =>
    if Fault.isKind name then makeError kind args keywords else makeKnown name args keywords
  | _, _ => instantiate kind args keywords

end SnippetRunner.Evaluation
