import SnippetRunner.Evaluation.Ancestry
import SnippetRunner.Evaluation.FunctionPart
import SnippetRunner.Evaluation.Item

/-!
# Members

What stands behind a point: attributes of objects and classes, members of modules, and the
methods that values of known types have. A member of a class may decide itself what is taken, set
or deleted through it.
-/

namespace SnippetRunner.Evaluation

/-! ## Complaints -/

/-- How the owner of a member is told. -/
def ownerText (h : Heap) (v : Value) : String :=
  match v with
  | .type kind => s!"type object '{kind}'"
  | .ref address =>
    match h.get? address with
    | some (.class_ c) => s!"type object '{c.name}'"
    | some (.module module _) => s!"module '{module}'"
    | _ => s!"'{h.typeName v}' object"
  | _ => s!"'{h.typeName v}' object"

/-- The complaint about a member that a value does not have. -/
def noMember {α : Type} (v : Value) (name : String) : Native α := do
  let h ← Native.heap
  Native.fail "AttributeError" s!"{ownerText h v} has no attribute '{name}'"

/-- The complaint about a property that cannot be used so. -/
def noAccess {α : Type} (v : Value) (name lack : String) : Native α := do
  let h ← Native.heap
  Native.fail "AttributeError" s!"property '{name}' of '{h.typeName v}' object has no {lack}"

/-- Whether an error is of a kind. -/
def isOfKind (error : Nat) (kind : String) : Native Bool := do
  let h ← Native.heap
  return match h.error? error with
    | some e => h.inherits e.kind (.type kind)
    | none => false

/-- Does something else where something fails for the lack of an attribute. -/
def unlessMissing {α : Type} (body : Native α) (other : Native α) : Native α :=
  try body catch
    | .fail error fresh => do
      if ← isOfKind error "AttributeError" then other else throw (.fail error fresh)
    | halt => throw halt

/-! ## Binding -/

/-- The known type and the name of a method as it is found in the type itself. -/
def methodParts? (function : String) : Option (String × String) :=
  match Text.parts '.' function with
  | [owner, name] => if KnownType.hasOwn owner name then some (owner, name) else none
  | _ => none

/-- The attribute that a class lists, of a value of the class. -/
def takeSlot (owner : Nat) (id : String) (v : Value) : Native Value := do
  let h ← Native.heap
  match v with
  | .ref address =>
    match (h.attributes address).get? (slotKey owner id) with
    | some held => return held
    | none => noMember v id
  | _ => noMember v id

/-- A member found in a class, as it appears on a value of that class, or on the class itself. -/
def bindMember (self : Option Value) (kind : Value) (name : String) (member : Value) :
    Native Value := do
  let h ← Native.heap
  let onValue : Value := match self with
    | some v => .bound v member
    | none => member
  match member with
  | .ref address =>
    match h.get? address with
    | some (.function _) =>
      return if name == "__new__" then member
        else if KnownType.classMethods.contains name then .bound kind member
        else onValue
    | some (.property getter _ _) =>
      match self, getter with
      | none, _ => return member
      | some v, .none => noAccess v name "getter"
      | some v, f => Native.askCall f [v]
    | some (.slot owner id) =>
      match self with
      | none => return member
      | some v => takeSlot owner id v
    | some (.wrapped .static f) => return f
    | some (.wrapped .ofClass f) => return .bound kind f
    | some (.instance_ _ _ _) =>
      match h.special? member "__get__" with
      | some method => askMethod member method [self.getD .none, kind]
      | none => return member
    | _ => return member
  | .own binding => return if binding.typeName == "function" then onValue else member
  | .builtin function =>
    match methodParts? function, self with
    | none, _ => return member
    | some (_, method), self =>
      if KnownType.staticMethods.contains method then return member
      else if KnownType.classMethods.contains method then return .method kind method
      else match self with
        | some v => return .method v method
        | none => return member
  | _ => return member

/-- Whether a class member goes before a value's own attributes: it has a say when they are
set. -/
def Heap.goesFirst (h : Heap) (member : Value) : Bool :=
  match member with
  | .ref address =>
    match h.get? address with
    | some (.property _ _ _) | some (.slot _ _) => true
    | some (.instance_ _ _ _) =>
      (h.special? member "__set__").isSome || (h.special? member "__delete__").isSome
    | _ => false
  | _ => false

/-! ## What known objects tell about themselves -/

/-- An error that may be there. -/
def errorValue : Option Nat → Value
  | some address => .ref address
  | none => .none

/-- What errors of a kind tell beyond their arguments; each is nothing unless it is known. -/
def detailNames (h : Heap) (kind : Value) : List String :=
  [("AttributeError", ["name", "obj"]), ("NameError", ["name"]),
    ("ImportError", ["name", "path", "msg"]), ("StopIteration", ["value"]),
    ("SystemExit", ["code"]),
    ("UnicodeError", ["encoding", "object", "start", "end", "reason"])].flatMap fun (known, names) =>
      if h.inherits kind (.type known) then names else []

/-- What every error tells about itself. -/
def errorMember? (h : Heap) (e : Error) (name : String) : Option Value :=
  match name with
  | "args" => some (.tuple e.args)
  | "__cause__" => some (errorValue e.cause)
  | "__context__" => some (errorValue e.context)
  | "__suppress_context__" => some (.bool e.suppress)
  | _ =>
    match e.details.get? name with
    | some v => some v
    | none =>
      if ! (detailNames h e.kind).contains name then none
      else match name, e.args with
        | "value", v :: _ => some v
        | "code", [v] => some v
        | "code", _ :: _ => some (.tuple e.args)
        | "msg", [v] => some v
        | _, _ => some .none

/-- The name and the qualified name of a function or a class. -/
def nameMember? (name qualname : String) (module : Option Value) : String → Option Value
  | "__name__" => some (.text name)
  | "__qualname__" => some (.text qualname)
  | "__module__" => module
  | "__doc__" => some .none
  | _ => none

/-- What a function tells about itself. -/
def functionMember? (h : Heap) (f : Function) (name : String) : Option Value :=
  match name with
  | "__defaults__" =>
    let values := positionalDefaults f
    some (if values.isEmpty then .none else .tuple values)
  | "__globals__" => some (.ref f.globals)
  | "__builtins__" => some (.ref f.known)
  | _ => nameMember? f.name f.qualname ((h.names f.globals).get? "__name__") name

/-- What a number tells about itself: its parts, or those of the fraction it is. -/
def numberMember? (v : Value) (name : String) : Option Value :=
  match v, v.int? with
  | .complex re im, _ =>
    match name with
    | "real" => some (.float re)
    | "imag" => some (.float im)
    | _ => none
  | _, some n =>
    match name with
    | "real" | "numerator" => some (.int n)
    | "imag" => some (.int 0)
    | "denominator" => some (.int 1)
    | _ => none
  | _, none =>
    match name, v.float? with
    | "real", some _ => some v
    | "imag", some _ => some (.float 0.0)
    | _, _ => none

/-- What a value of a known type tells about itself, other than methods. -/
def coreMember? (h : Heap) (v : Value) (name : String) : Option Value :=
  let bounds (start stop step : Value) : Option Value :=
    match name with
    | "start" => some start
    | "stop" => some stop
    | "step" => some step
    | _ => none
  match v with
  | .own .log =>
    if Capture.logLevels.contains name then some (.own (.logLevel name))
    else if name == "_write" then some (.own .logWrite)
    else none
  | .own binding =>
    let module := String.intercalate "." ((Text.parts '.' (binding.fullName?.getD "")).take 3)
    let qualname := ((binding.fullName?.getD "").drop (module.length + 1)).toString
    nameMember? binding.name qualname (some (.text module)) name
  | .builtin function =>
    let parts := Text.parts '.' function
    let owner := if parts.length = 2 && (methodParts? function).isNone then parts.headD "" else ""
    let qualname := if owner.isEmpty then function else parts.getLastD ""
    let module := if owner.isEmpty then "builtins" else owner
    nameMember? (parts.getLastD "") qualname (some (.text module)) name
  | .method self method =>
    match name with
    | "__self__" => some self
    | "__module__" => some .none
    | _ => nameMember? method (h.typeName self ++ "." ++ method) none name
  | .slice lower upper step => bounds lower upper step
  | .range start stop step => bounds (.int start) (.int stop) (.int step)
  | .bound self function =>
    match name with
    | "__self__" => some self
    | "__func__" => some function
    | _ => none
  | .ref address =>
    match h.get? address with
    | some (.error e) => errorMember? h e name
    | some (.function f) => functionMember? h f name
    | some (.view _ mapping) => if name == "mapping" then some (.ref mapping) else none
    | some (.generator kind qualname progress) =>
      match name == kind.shortName ++ "_running", progress with
      | true, .running => some (.bool true)
      | true, _ => some (.bool false)
      | false, _ => nameMember? ((Text.parts '.' qualname).getLastD "") qualname none name
    | some (.wrapped _ f) =>
      if name == "__func__" || name == "__wrapped__" then some f else none
    | some (.property getter setter deleter) =>
      match name with
      | "fget" => some getter
      | "fset" => some setter
      | "fdel" => some deleter
      | _ => none
    | some (.super start self) =>
      match name with
      | "__thisclass__" => some start
      | "__self__" => some self
      | _ => none
    | some (.generic origin args) =>
      match name with
      | "__origin__" => some origin
      | "__args__" => some (.tuple args)
      | "__parameters__" => some (.tuple [])
      | "__unpacked__" => some (.bool false)
      | _ => none
    | some (.union kinds) =>
      match name with
      | "__args__" => some (.tuple kinds)
      | "__parameters__" => some (.tuple [])
      | _ => none
    | some (.slot owner id) =>
      match name with
      | "__objclass__" => some (.ref owner)
      | "__module__" => none
      | _ => nameMember? id (((h.class? (.ref owner)).map (·.qualname ++ "." ++ id)).getD id) none name
    | some (.code function) =>
      match h.get? function with
      | some (.function f) => codeMember? h f name
      | _ => none
    | some (.trace frames) =>
      match name, frames with
      | "tb_lineno", frame :: _ => some (.int frame.span.line)
      | _, _ => none
    | _ => none
  | _ => numberMember? v name

/-- A new mapping for type hints, which stays with a function or a class from then on. -/
def newHints (address : Nat) : Native Value := do
  let hints ← Native.allocate (.mapping {})
  Native.modifyHeap fun h => h.mapAttributes address (·.put "__annotations__" hints)
  return hints

/-- Whether an object has a mapping of its attributes that others may change. -/
def Heap.hasMembers (h : Heap) (address : Nat) : Bool :=
  match h.get? address with
  | some (.instance_ _ _ _) | some (.error _) | some (.function _) | some (.module _ _) => true
  | _ => false

/-- A member that every value, or every object of some known type, makes when it is asked. -/
def madeMember (v core : Value) (name : String) : Native Value := do
  let h ← Native.heap
  match name, v with
  | "__class__", _ => return h.typeOf v
  | "__doc__", _ => return .none
  | "__dict__", .ref address =>
    if h.hasMembers address && (! h.isInstance v || h.hasAttributes (h.typeOf v)) then
      match Heap.linkOf? (h.attributes address) with
      | some shared => return .ref shared
      | none => Native.allocate (.members address false)
    else noMember v name
  | "__weakref__", .ref _ =>
    if (h.lineage (h.typeOf v)).any h.letsReferences then return .none else noMember v name
  | "__annotations__", .ref address =>
    match h.get? address with
    | some (.function _) => newHints address
    | _ => noMember v name
  | "cell_contents", .ref address =>
    match h.get? address with
    | some (.cell scope id) =>
      match (h.scope? scope).bind (·.table.get? id) with
      | some content => return content
      | none => Native.valueError "Cell is empty"
    | _ => noMember v name
  | "__traceback__", .ref address =>
    match (h.error? address).map (·.frames) with
    | some (frame :: rest) => Native.allocate (.trace (frame :: rest))
    | some [] => return .none
    | none => noMember v name
  | "tb_next", .ref address =>
    match h.get? address with
    | some (.trace (_ :: frame :: rest)) => Native.allocate (.trace (frame :: rest))
    | some (.trace _) => return .none
    | _ => noMember v name
  | _, _ =>
    match v, core with
    | .ref address, _ =>
      match h.get? address with
      | some (.function f) => return ← partOrNone f address v
      | _ => noMember v name
    | _, .bound _ (.ref function) =>
      match (h.get? function), (h.attributes function).get? name with
      | _, some member => return member
      | some (.function f), none =>
        match functionMember? h f name with
        | some member => return member
        | none => partOrNone f function (.ref function)
      | _, none => noMember v name
    | _, _ => noMember v name
where
  /-- What a function makes under the name, or a complaint. -/
  partOrNone (f : Function) (address : Nat) (owner : Value) : Native Value := do
    match ← madePart? f address name with
    | some part => return part
    | none => noMember owner name

/-! ## Taking a member -/

/-- A member of a value by the rules that hold where its class has no others. -/
def plainMember (v : Value) (name : String) : Native Value := do
  let h ← Native.heap
  let kind := h.typeOf v
  let own := match v with
    | .ref address => (h.attributes address).get? name
    | _ => none
  let found : Option Value :=
    if name == "__doc__" then
      own.orElse fun _ => (h.class? kind).bind (·.attributes.get? name)
    else own
  match h.lineMember? name (h.lineage kind), found with
  | some member, some own =>
    if h.goesFirst member then bindMember (some v) kind name member else return own
  | none, some own => return own
  | some member, none => bindMember (some v) kind name member
  | none, none =>
    match coreMember? h (h.core v) name with
    | some member => return member
    | none => madeMember v (h.core v) name

/-- The known types that a known type inherits from at once. -/
def knownBases (kind : String) : List Value :=
  ((KnownType.lineage kind).drop 1).take 1 |>.map .type

/-- What a class tells about itself. -/
def classTold? (h : Heap) (v : Value) (name : String) : Option Value :=
  let bases := match v with
    | .type kind => knownBases kind
    | _ => ((h.class? v).map fun c =>
        if c.bases.isEmpty then [.type "object"] else c.bases).getD []
  match name with
  | "__bases__" => some (.tuple bases)
  | "__base__" => some (bases.headD .none)
  | "__mro__" => some (.tuple (h.lineage v))
  | "__class__" => some (h.typeOf v)
  | _ =>
    match v, h.class? v with
    | .type kind, _ =>
      let parts := Text.parts '.' kind
      let module := if parts.length = 1 then "builtins" else String.intercalate "." parts.dropLast
      let own := parts.getLastD ""
      nameMember? own own (some (.text module)) name
    | _, some c =>
      match name with
      | "__module__" | "__doc__" => some ((c.attributes.get? name).getD .none)
      | _ => nameMember? c.name c.qualname none name
    | _, none => none

/-- What values of a class hold or tell under a name by a known type, as it is found in the class
itself. -/
def Heap.fieldAlong? (h : Heap) (kind : Value) (name : String) : Option String :=
  (h.lineage kind).findSome? fun
    | .type known => KnownType.fieldOf? known name
    | _ => none

/-- A member of a class: the type of the class may go first; then what the class or one it inherits
from has, what it tells about itself, and what its type has. -/
def classMember (v : Value) (name : String) : Native Value := do
  let h ← Native.heap
  let metaclass := h.typeOf v
  let above := h.lineMember? name (h.lineage metaclass)
  let own := h.lineMember? name (h.lineage v)
  let first := match above with
    | some member => h.goesFirst member
    | none => false
  let special := name.startsWith "__" && name.endsWith "__"
  match above, own, if special then classTold? h v name else none with
  | some member, _, told =>
    match first, told, own with
    | true, _, _ => bindMember (some v) metaclass name member
    | false, some told, _ => return told
    | false, none, some own => bindMember none v name own
    | false, none, none => bindMember (some v) metaclass name member
  | none, _, some told => return told
  | none, some own, none => bindMember none v name own
  | none, none, none =>
    match name, v, h.fieldAlong? v name with
    | "__annotations__", .ref address, _ => newHints address
    | "__dict__", .ref address, _ => Native.allocate (.members address true)
    | "__dict__", .type kind, _ =>
      let names := KnownType.ownMethods kind ++ KnownType.ownSpecials kind
      Native.allocate (.names (names.filterMap fun method =>
        (h.lineMember? method [v]).map fun member => (method, member)))
    | _, _, some field => return .builtin field
    | _, _, none => noMember v name

/-- A member that a class inherits from those after a given one in a line. -/
def superMember (v start self : Value) (name : String) : Native Value := do
  let h ← Native.heap
  let ofClass := h.isKind self && h.inherits self start
  let kind := if ofClass then self else h.typeOf self
  let above := ((h.lineage kind).dropWhile fun k => ! Heap.sameKind k start).drop 1
  match name, h.lineMember? name above with
  | "__class__", _ => return .type "super"
  | _, some member => bindMember (if ofClass then none else some self) kind name member
  | _, none =>
    match coreMember? h v name with
    | some member => return member
    | none => noMember v name

/-- A member of a value by the rules for its type. -/
def memberByType (v : Value) (name : String) : Native Value := do
  let h ← Native.heap
  match v with
  | .type _ => classMember v name
  | .ref address =>
    match h.get? address with
    | some (.class_ _) => classMember v name
    | some (.super start self) => superMember v start self name
    | some (.generic origin _) =>
      if name == "__class__" || (coreMember? h v name).isSome then plainMember v name
      else classMember origin name
    | _ => plainMember v name
  | _ => plainMember v name

/-- A member of a value. Its class may take over the search, or help when nothing is found. -/
def searchMember (v : Value) (name : String) : Native Value := do
  let h ← Native.heap
  if ! h.isInstance v then memberByType v name
  else
    let found := match h.special? v "__getattribute__" with
      | some method => askMethod v method [.text name]
      | none => memberByType v name
    match h.special? v "__getattr__" with
    | none => found
    | some method => unlessMissing found (askMethod v method [.text name])

/-- A member of a value. An error for the lack of one tells where it was looked for. -/
def memberOf (v : Value) (name : String) : Native Value := do
  try searchMember v name catch
    | .fail error fresh => do
      if ← isOfKind error "AttributeError" then
        Native.modifyHeap fun h => h.mapError error fun e =>
          if e.details.isEmpty then { e with details := [("name", .text name), ("obj", v)] } else e
      throw (.fail error fresh)
    | halt => throw halt

/-- A member of a value; none if there is no such member. -/
def memberOf? (v : Value) (name : String) : Native (Option Value) :=
  unlessMissing (do return some (← memberOf v name)) (return none)

/-! ## Setting and deleting a member -/

/-- An error as the cause or the context of another one. -/
def chainedError (part : String) (v : Value) : Native (Option Nat) := do
  match v with
  | .none => return none
  | .ref address =>
    match (← Native.heap).error? address with
    | some _ => return some address
    | none => refuse
  | _ => refuse
where
  /-- The complaint about something that is no error. -/
  refuse : Native (Option Nat) :=
    Native.typeError s!"exception {part} must be None or derive from BaseException"

/-- The places that a trace tells. -/
def traceFrames (v : Value) : Native (List Fault.Frame) := do
  let refuse : Native (List Fault.Frame) :=
    Native.typeError "__traceback__ must be a traceback or None"
  match v with
  | .none => return []
  | .ref address =>
    match (← Native.heap).get? address with
    | some (.trace frames) => return frames
    | _ => refuse
  | _ => refuse

/-- Sets a member of an error. -/
def setErrorMember (address : Nat) (e : Error) (name : String) (member : Value) :
    Native Unit := do
  let put (f : Error → Error) : Native Unit := Native.modifyHeap fun h => h.mapError address f
  match name with
  | "args" =>
    let args ← itemsOf member
    put fun e => { e with args }
  | "__cause__" =>
    let cause ← chainedError "cause" member
    put fun e => { e with cause, suppress := true }
  | "__context__" =>
    let context ← chainedError "context" member
    put fun e => { e with context }
  | "__suppress_context__" =>
    match member with
    | .bool suppress => put fun e => { e with suppress }
    | _ => Native.typeError "attribute value type must be bool"
  | "__traceback__" =>
    let frames ← traceFrames member
    put fun e => { e with frames }
  | _ =>
    if (detailNames (← Native.heap) e.kind).contains name then
      put fun e => { e with details := e.details.put name member }
    else put fun e => { e with attributes := e.attributes.put name member }

/-- Sets the name of a function or a class. -/
def setNameMember (address : Nat) (owner name : String) (member : Value) : Native Unit := do
  match member with
  | .text s =>
    Native.modifyHeap fun h => h.modify address fun
      | .function f =>
        .function (if name == "__name__" then { f with name := s } else { f with qualname := s })
      | .class_ c =>
        .class_ (if name == "__name__" then { c with name := s } else { c with qualname := s })
      | o => o
  | _ =>
    let typeName := (← Native.heap).typeName member
    if owner.isEmpty then Native.typeError s!"{name} must be set to a string object"
    else Native.typeError s!"can only assign string to {owner}.{name}, not '{typeName}'"

/-- Sets the default values of a function. -/
def setDefaults (address : Nat) (name : String) (member : Value) : Native Unit := do
  let h ← Native.heap
  let put (f : Function → Function) : Native Unit :=
    Native.modifyHeap fun h => h.modify address fun
      | .function g => .function (f g)
      | o => o
  match name, h.core member, h.mapping? member with
  | "__defaults__", .none, _ => put (·.withDefaults [])
  | "__defaults__", .tuple values, _ => put (·.withDefaults values)
  | "__defaults__", _, _ => Native.typeError "__defaults__ must be set to a tuple object"
  | _, .none, _ => put (·.withNamedDefaults [])
  | _, _, some entries =>
    put (·.withNamedDefaults (entries.entries.filterMap fun e =>
      (h.text? e.key).map fun id => (id, e.value)))
  | _, _, none => Native.typeError "__kwdefaults__ must be set to a dict object"

/-- Whether a name is one by which functions and classes are told. -/
def isNaming (name : String) : Bool := name == "__name__" || name == "__qualname__"

/-- Makes a value one of another class. -/
def setClass (address : Nat) (old new : Value) : Native Unit := do
  let h ← Native.heap
  match new, h.class? new with
  | .ref kind, some _ =>
    if ! h.sameLayout old new then
      Native.typeError
        (s!"__class__ assignment: '{h.kindName new}' object layout differs from "
          ++ s!"'{h.kindName old}'")
    Native.modifyHeap fun h => h.modify address fun
      | .instance_ _ attributes content => .instance_ kind attributes content
      | o => o
  | _, _ =>
    if h.isKind new then
      Native.typeError
        "__class__ assignment only supported for mutable types or ModuleType subclasses"
    else Native.typeError s!"__class__ must be set to a class, not '{h.typeName new}' object"

/-- Lets a value have the entries of a mapping as its attributes. -/
def setAttributes (address : Nat) (mapping : Value) : Native Unit := do
  let h ← Native.heap
  if h.inherits (h.typeOf mapping) (.type "dict") then
    Native.modifyHeap fun h => h.modify address fun
      | .instance_ kind attributes content =>
        let hidden := attributes.filter fun (name, _) => isHiddenKey name && name != linkKey
        .instance_ kind ((linkKey, h.core mapping) :: hidden) content
      | o => o
  else
    Native.typeError s!"__dict__ must be set to a dictionary, not a '{h.typeName mapping}'"

/-- Lets a class inherit from other types than before. -/
def setBases (address : Nat) (c : Class) (bases : Value) : Native Unit := do
  let h ← Native.heap
  match h.core bases with
  | .tuple [] => Native.typeError s!"can only assign non-empty tuple to {c.name}.__bases__, not ()"
  | .tuple kinds =>
    match kinds.find? fun kind => ! h.isKind kind with
    | some other =>
      Native.typeError
        s!"{c.name}.__bases__ must be tuple of classes, not '{h.typeName other}'"
    | none =>
      if kinds.any fun kind => h.inherits kind (.ref address) then
        Native.typeError "a __bases__ item causes an inheritance cycle"
      if let some fault := h.basesFault? kinds then Native.typeError fault
      let (old, new) := (c.bases.headD (.type "object"), kinds.headD (.type "object"))
      if ! h.sameLayout old new then
        Native.typeError (s!"__bases__ assignment: '{h.kindName new}' object layout differs from "
          ++ s!"'{h.kindName old}'")
      Native.modifyHeap fun h => h.modify address fun
        | .class_ c => .class_ { c with bases := kinds }
        | o => o
  | _ =>
    Native.typeError s!"can only assign tuple to {c.name}.__bases__, not {h.typeName bases}"

/-- Sets a member of an object with attributes, where no member of its class has a say. -/
def setAttribute (v : Value) (name : String) (member : Value) : Native Unit := do
  let h ← Native.heap
  let refuse : Native Unit :=
    if (coreMember? h (h.core v) name).isSome && (h.content? v).isNone then
      Native.fail "AttributeError"
        s!"attribute '{name}' of '{h.typeName v}' objects is not writable"
    else if (h.lineMember? name (h.lineage (h.typeOf v))).isSome then
      Native.fail "AttributeError" s!"'{h.typeName v}' object attribute '{name}' is read-only"
    else noMember v name
  let put (address : Nat) : Native Unit :=
    Native.modifyHeap fun h => h.mapAttributes address (·.put name member)
  match v with
  | .type kind => Native.typeError s!"cannot set '{name}' attribute of immutable type '{kind}'"
  | .ref address =>
    match h.get? address with
    | some (.instance_ kind _ _) =>
      if name == "__class__" then setClass address (.ref kind) member
      else if ! h.hasAttributes (.ref kind) then refuse
      else if name == "__dict__" then setAttributes address member
      else if name == "__weakref__" then
        Native.fail "AttributeError"
          s!"attribute '{name}' of '{h.typeName v}' objects is not writable"
      else put address
    | some (.error e) => setErrorMember address e name member
    | some (.class_ c) =>
      if isNaming name then setNameMember address c.name name member
      else if name == "__bases__" then setBases address c member
      else if name == "__mro__" || name == "__base__" then
        Native.fail "AttributeError" "readonly attribute"
      else if name == "__dict__" then
        Native.fail "AttributeError" "attribute '__dict__' of 'type' objects is not writable"
      else put address
    | some (.function _) =>
      if isNaming name then setNameMember address "" name member
      else if name == "__defaults__" || name == "__kwdefaults__" then
        setDefaults address name member
      else put address
    | some (.module _ _) => put address
    | _ => refuse
  | _ => refuse

/-- Sets the attribute that a class lists, of a value of the class. -/
def fillSlot (owner : Nat) (id : String) (v member : Value) : Native Unit := do
  match v with
  | .ref address => Native.modifyHeap fun h => h.mapAttributes address (·.put (slotKey owner id) member)
  | _ => noMember v id

/-- Deletes the attribute that a class lists, of a value of the class. -/
def emptySlot (owner : Nat) (id : String) (v : Value) : Native Unit := do
  match v with
  | .ref address =>
    if ((← Native.heap).attributes address).has (slotKey owner id) then
      Native.modifyHeap fun h => h.mapAttributes address (·.erase (slotKey owner id))
    else Native.fail "AttributeError" id
  | _ => noMember v id

/-- Sets a member of a value by the rules that hold where its class has no others. -/
def setPlainMember (v : Value) (name : String) (member : Value) : Native Unit := do
  let h ← Native.heap
  match h.classMember? (h.typeOf v) name with
  | some (.ref inClass) =>
    match h.get? inClass, h.special? (.ref inClass) "__set__" with
    | some (.property _ .none _), _ => noAccess v name "setter"
    | some (.property _ setter _), _ =>
      let _ ← Native.askCall setter [v, member]
      return
    | some (.slot owner id), _ => fillSlot owner id v member
    | _, some method =>
      let _ ← askMethod (.ref inClass) method [v, member]
      return
    | _, none => setAttribute v name member
  | _ => setAttribute v name member

/-- Sets a member of a value. -/
def setMember (v : Value) (name : String) (member : Value) : Native Unit := do
  match (← Native.heap).special? v "__setattr__" with
  | some method =>
    let _ ← askMethod v method [.text name, member]
    return
  | none => setPlainMember v name member

/-- Deletes a member of a value by the rules that hold where its class has no others. -/
def deletePlainMember (v : Value) (name : String) : Native Unit := do
  let h ← Native.heap
  let erase : Native Unit :=
    match v with
    | .ref address =>
      if (h.attributes address).has name then
        Native.modifyHeap fun h => h.mapAttributes address (·.erase name)
      else noMember v name
    | .type kind => Native.typeError s!"cannot set '{name}' attribute of immutable type '{kind}'"
    | _ =>
      if (h.lineMember? name (h.lineage (h.typeOf v))).isSome then
        Native.fail "AttributeError" s!"'{h.typeName v}' object attribute '{name}' is read-only"
      else noMember v name
  match h.classMember? (h.typeOf v) name with
  | some (.ref inClass) =>
    match h.get? inClass, h.special? (.ref inClass) "__delete__" with
    | some (.property _ _ .none), _ => noAccess v name "deleter"
    | some (.property _ _ deleter), _ =>
      let _ ← Native.askCall deleter [v]
      return
    | some (.slot owner id), _ => emptySlot owner id v
    | _, some method =>
      let _ ← askMethod (.ref inClass) method [v]
      return
    | _, none => erase
  | _ => erase

/-- Deletes a member of a value. -/
def deleteMember (v : Value) (name : String) : Native Unit := do
  match (← Native.heap).special? v "__delattr__" with
  | some method =>
    let _ ← askMethod v method [.text name]
    return
  | none => deletePlainMember v name

end SnippetRunner.Evaluation
