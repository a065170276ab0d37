import SnippetRunner.Evaluation.Group
import SnippetRunner.Evaluation.Matching
import SnippetRunner.Evaluation.Template

/-!
# Performing operations

Every operation on values that are there, in one function.
-/

namespace SnippetRunner.Evaluation

open SnippetRunner.Snippet

/-- The items of a display, those of spread values in their places. -/
def displayItems : List Bool → List Value → Native (List Value)
  | true :: flags, v :: rest => do
    let h ← Native.heap
    if ! h.isIterable v then
      Native.typeError s!"Value after * must be an iterable, not {h.typeName v}"
    return (← itemsOf v) ++ (← displayItems flags rest)
  | _ :: flags, v :: rest => do return v :: (← displayItems flags rest)
  | _, vs => return vs

/-- The entries of a value that is spread into a mapping: a mapping, or a value that tells its keys;
none if it is neither. -/
def spreadEntries? (v : Value) : Native (Option Mapping) := do
  let h ← Native.heap
  match h.special? v "keys", h.mapping? v with
  | none, found => return found
  | some keys, _ =>
    let names ← itemsOf (← askMethod v keys [])
    return some (← Mapping.withEntries {} (← names.mapM fun k => return (k, ← itemOf v k)))

/-- The mapping of a display. -/
def displayMapping (t : Mapping) : List Bool → List Value → Native Mapping
  | true :: flags, v :: rest => do
    match ← spreadEntries? v with
    | some more => displayMapping (← t.overlaid more) flags rest
    | none => Native.typeError s!"'{(← Native.heap).typeName v}' object is not a mapping"
  | false :: flags, k :: v :: rest => do displayMapping (← t.withEntry k v) flags rest
  | _, _ => return t

/-- The set of a display. Items that are written out are put into a set of their own before. -/
def displaySet (spread : List Bool) (constant : Bool) (vs : List Value) : Native KeySet := do
  let items := (← (vs.zip spread).mapM fun (v, many) =>
    if many then itemsOf v else pure [v]).flatten
  let keys ← KeySet.withKeys {} items
  if constant then KeySet.union {} keys same else return keys

/-- A function of a program as complaints about its arguments name it. -/
def functionText (h : Heap) (f : Function) : String :=
  match (h.names f.globals).get? "__name__" with
  | some (.text module) => module ++ "." ++ f.qualname ++ "()"
  | _ => f.qualname ++ "()"

/-- How a function is named when its arguments cannot be spread. -/
def calleeText (callee : Value) : Native String := do
  match callee with
  | .ref address =>
    let h ← Native.heap
    match h.get? address with
    | some (.function f) => return functionText h f
    | some (.class_ _) => return h.fullKindName callee ++ "()"
    | _ => textOf callee
  | .builtin name => return name ++ "()"
  | .type name => return name ++ "()"
  | .method self name => return (← Native.heap).typeName self ++ "." ++ name ++ "()"
  | .bound _ (.ref function) =>
    let h ← Native.heap
    match h.get? function with
    | some (.function f) => return functionText h f
    | _ => textOf callee
  | .own binding =>
    match binding.fullName? with
    | some name => return name ++ "()"
    | none => textOf callee
  | _ => textOf callee

/-- The positional and the named arguments of a call. -/
def callArguments (callee : Value) : List ArgumentShape → List Value →
    Native (List Value × Table)
  | shape :: shapes, v :: rest => do
    let h ← Native.heap
    match shape with
    | .positional =>
      let (args, keywords) ← callArguments callee shapes rest
      return (v :: args, keywords)
    | .spread =>
      if ! h.isIterable v then
        Native.typeError
          s!"{← calleeText callee} argument after * must be an iterable, not {h.typeName v}"
      let items ← itemsOf v
      let (args, keywords) ← callArguments callee shapes rest
      return (items ++ args, keywords)
    | .keyword id =>
      let (args, keywords) ← callArguments callee shapes rest
      return (args, (id, v) :: keywords)
    | .spreadKeywords =>
      match ← spreadEntries? v with
      | none =>
        Native.typeError
          s!"{← calleeText callee} argument after ** must be a mapping, not {h.typeName v}"
      | some entries =>
        let named ← entries.toList.mapM fun (k, w) => do
          match h.text? k with
          | some id => return (id, w)
          | none => Native.typeError "keywords must be strings"
        let (args, keywords) ← callArguments callee shapes rest
        return (args, named ++ keywords)
  | _, _ => return ([], [])

/-- The first name that is passed twice. -/
def repeatedKeyword? : Table → Option String
  | [] => none
  | (id, _) :: rest => if Table.has rest id then some id else repeatedKeyword? rest

/-- The positional and the named arguments of a call, where no name is passed twice. -/
def distinctArguments (callee : Value) (shape : List ArgumentShape) (values : List Value) :
    Native (List Value × Table) := do
  let (args, keywords) ← callArguments callee shape values
  match repeatedKeyword? keywords with
  | some id =>
    Native.typeError
      s!"{← calleeText callee} got multiple values for keyword argument '{id}'"
  | none => return (args, keywords)

/-- Calls a value with arguments of the given shapes. -/
def callShaped (callee : Value) (shape : List ArgumentShape) (values : List Value) :
    Native Value := do
  let (args, keywords) ← distinctArguments callee shape values
  invoke callee args keywords

/-- The names that the type of a class gives to the body of the class at its start. -/
def preparedNames (kind : Value) (args : List Value) (keywords : Table) : Native Value := do
  match ← memberOf? kind "__prepare__" with
  | none => return .none
  | some method =>
    let made ← Native.askValue (.call method args keywords)
    let h ← Native.heap
    if (h.mapping? made).isSome then return made
    let complaint := "must return a mapping, not "
    Native.typeError s!"{h.kindName kind}.__prepare__() {complaint}{h.typeName made}"

/-- The types that a value stands for as a base of a class. -/
def basesFor (bases : List Value) (v : Value) : Native (List Value) := do
  let h ← Native.heap
  match h.special? v "__mro_entries__", v with
  | some method, _ =>
    match ← askMethod v method [.tuple bases] with
    | .tuple kinds => return kinds
    | _ => Native.typeError "__mro_entries__ must return a tuple"
  | none, .ref address =>
    match h.get? address with
    | some (.generic origin _) => return [origin]
    | _ => return [v]
  | none, _ => return [v]

/-- The bases of a class, the names and the values of its options, and the names that its body
starts with. The types of the bases have to agree on the type of the class. -/
def openClass (name : String) (shape : List ArgumentShape) (values : List Value) :
    Native Value := do
  let (given, options) ← distinctArguments (.builtin "__build_class__") shape values
  let bases := (← given.mapM (basesFor given)).flatten
  match (← Native.heap).metaclassOf (options.get? "metaclass") bases with
  | .error fault => Native.typeError fault
  | .ok kind =>
    let names ← preparedNames kind [.text name, .tuple bases] (options.erase "metaclass")
    return .tuple
      [.tuple bases, .tuple (options.map fun (id, _) => .text id), .tuple (options.map (·.2)), names]

/-- The error that a value stands for: an error, or a kind of error that is called first. -/
def errorOf (complaint : String) (v : Value) : Native Nat := do
  let h ← Native.heap
  let made ← if h.isKind v && h.isErrorKind v then Native.askValue (.call v [] []) else pure v
  match made with
  | .ref address =>
    match (← Native.heap).error? address with
    | some _ => return address
    | none => Native.typeError complaint
  | _ => Native.typeError complaint

/-- Raises an error, perhaps with a cause. -/
def raiseError (v : Value) (cause : Option Value) : Native Value := do
  let error ← errorOf "exceptions must derive from BaseException" v
  match cause with
  | none => pure ()
  | some .none =>
    Native.modifyHeap fun h => h.mapError error fun e =>
      { e with cause := Option.none, suppress := true }
  | some w =>
    let source ← errorOf "exception causes must derive from BaseException" w
    Native.modifyHeap fun h => h.mapError error fun e =>
      { e with cause := some source, suppress := true }
  throw (.fail error true)

/-- Whether an error is of a kind, or of one among several. -/
def catchesError (error : Nat) (kind : Value) : Native Value := do
  let h ← Native.heap
  let kinds := match kind with
    | .tuple kinds => kinds
    | _ => [kind]
  if kinds.all fun k => h.isKind k && h.isErrorKind k then
    let own := ((h.error? error).map (·.kind)).getD .none
    return .bool (kinds.any (h.inherits own))
  else
    Native.typeError "catching classes that do not inherit from BaseException is not allowed"

/-- Imports a module by the import function that a snippet has. -/
def importBy (importer : Value) (name : String) (level : Nat) (members : List String) :
    Native Value := do
  let fromList := if members.isEmpty then Value.none else .tuple (members.map .text)
  match importer with
  | .own (.importer allowed) =>
    inHost "guarded_import" (importThrough allowed name level (! members.isEmpty) members)
  | .builtin "__import__" => 
    importThrough [Sandbox.rootOf name] name level (! members.isEmpty) members
  | .none => Native.fail "ImportError" "__import__ not found"
  | _ => Native.askValue (.call importer [.text name, .none, .none, fromList, .int level] [])

/-- The innermost module of an import that names it as a whole. -/
def innermost (module : Value) (name : String) : Native Value :=
  ((Text.parts '.' name).drop 1).foldlM (fun v part => memberOf v part) module

/-- A member that is imported from a module. -/
def importedMember (module : Value) (name : String) : Native Value := do
  match ← memberOf? module name with
  | some v => return v
  | none =>
    let owner ← match ← memberOf? module "__name__" with
      | some (.text s) => pure s
      | _ => pure "<unknown module name>"
    Native.failAbout "ImportError"
      [.text s!"cannot import name '{name}' from '{owner}' (unknown location)"]
      [("name", .text owner)]

/-- Enters a manager, whose class has to say how that is done and how it is left. -/
def enterManager (awaits : Bool) (v : Value) : Native Value := do
  let h ← Native.heap
  let protocol := if awaits then "asynchronous context manager" else "context manager"
  let (enter, exit) := if awaits then ("__aenter__", "__aexit__") else ("__enter__", "__exit__")
  let complaint := s!"'{h.typeName v}' object does not support the {protocol} protocol"
  match h.special? v enter, h.special? v exit with
  | none, _ => Native.typeError complaint
  | some _, none => Native.typeError (complaint ++ s!" (missed {exit} method)")
  | some method, some _ =>
    let answer ← askMethod v method []
    if awaits then awaitableOf .entering answer else return answer

/-- Leaves a manager, perhaps because of an error. -/
def exitManager (awaits : Bool) (v : Value) (error : Option Nat) : Native Value := do
  let h ← Native.heap
  let args : List Value ← match error with
    | none => pure [.none, .none, .none]
    | some address =>
      let kind := ((h.error? address).map (·.kind)).getD .none
      let trace ← memberByType (.ref address) "__traceback__"
      pure [kind, .ref address, trace]
  match h.special? v (if awaits then "__aexit__" else "__exit__") with
  | none => return .none
  | some method =>
    let answer ← askMethod v method args
    if awaits then awaitableOf .exiting answer else return answer

/-- What a comprehension makes of its items, which are sets for a set and mappings for a
mapping. -/
def gather (kind : ComprehensionKind) (items : List Value) : Native Value := do
  let h ← Native.heap
  match kind with
  | .set =>
    let keys := items.flatMap fun v => ((h.set? v).map KeySet.keys).getD []
    Native.allocate (.set false (← keys.foldlM (fun s (hash, v) => s.insert (same · v) hash v) {}))
  | .mapping =>
    let parts := items.filterMap h.mapping?
    Native.allocate (.mapping (← parts.foldlM Mapping.overlaid {}))
  | _ => newList items

/-- An operator on two values, where a text can be a template. -/
def operate (op : BinaryOp) (augment : Bool) (v w : Value) : Native Value := do
  let h ← Native.heap
  match op, h.core v, h.special? v "__mod__" with
  | .mod, .text template, none => fillTemplate template w
  | .mod, .bytes template, none => fillBytes v template w
  | _, _, _ => if augment then augmented op v w else binary op false v w

/-- Performs an operation. -/
def perform (op : Operation) (args : List Value) : Native Value := do
  match op, args with
  | .tuple spread, vs => return .tuple (← displayItems spread vs)
  | .list spread, vs => newList (← displayItems spread vs)
  | .set spread constant, vs => Native.allocate (.set false (← displaySet spread constant vs))
  | .mapping spread, vs => Native.allocate (.mapping (← displayMapping {} spread vs))
  | .unary op, [v] => unary op v
  | .binary op, [v, w] => operate op false v w
  | .augmented op, [v, w] => operate op true v w
  | .compare op, [v, w] => comparison op v w
  | .attribute name, [v] => memberOf v name
  | .item, [v, index] => itemOf v index
  | .slice, [lower, upper, step] => return .slice lower upper step
  | .call shape, callee :: values => callShaped callee shape values
  | .setAttribute name, [v, base] =>
    setMember base name v
    return .none
  | .setItem, [v, base, index] =>
    setItem base index v
    return .none
  | .deleteAttribute name, [base] =>
    deleteMember base name
    return .none
  | .deleteItem, [base, index] =>
    deleteItem base index
    return .none
  | .truth, [v] => return .bool (← truthOf v)
  | .iterate, [v] => iteratorOf v
  | .awaitable role, [v] => awaitableOf role v
  | .asyncIterate, [v] => asyncIteratorOf v
  | .asyncNext, [v] => asyncNextOf v
  | .next, [it] => return (← nextOf it).toAnswer
  | .send, [it, v] => return (← sendThrough it v).toAnswer
  | .throwInto error, [it] => return (← raiseThrough it error).toAnswer
  | .close, [it] =>
    closeThrough it
    return .none
  | .discardGenerator, [.ref address] =>
    discardGenerator address
    return .none
  | .unpack count rest, [v] => unpackItems count rest v
  | .matchSequence count rest blank skips, [v] => matchSequence count rest blank skips v
  | .matchMapping count, [v] => return .bool (← matchesMapping count v)
  | .matchKeys others, v :: keys => matchKeys others v keys
  | .matchInstance count names, [v, kind] => matchInstance count names v kind
  | .format conversion, [v, .text layout] =>
    match conversion with
    | some 'r' => return .text (← formatted (.text (← inspect v)) layout)
    | some 's' => return .text (← formatted (.text (← textOf v)) layout)
    | some 'a' => return .text (← formatted (.text (Text.asciiOnly (← inspect v))) layout)
    | _ => return .text (← formatted v layout)
  | .join, vs =>
    return .text (String.join (vs.map fun
      | .text s => s
      | _ => ""))
  | .raise, [v] => raiseError v none
  | .raise, _ => Native.fail "RuntimeError" "No active exception to reraise"
  | .raiseFrom, [v, cause] => raiseError v (some cause)
  | .assertion, vs => Native.failWith "AssertionError" vs
  | .catches error, [kind] => catchesError error kind
  | .splitGroup error, [kind] => splitForHandler error kind
  | .joinGroup error raised, _ => joinErrors error raised
  | .importModule name whole, [importer] =>
    let module ← importBy importer name 0 []
    if whole then innermost module name else return module
  | .importMember module level names, [importer] => importBy importer module level names
  | .member name, [module] => importedMember module name
  | .enter awaits, [manager] => enterManager awaits manager
  | .exit awaits error, [manager] => exitManager awaits manager error
  | .gather kind, [generator] => gather kind (← itemsOf generator)
  | .visit visitor, [state, item] => visit visitor state item
  | .openClass name shape, values => openClass name shape values
  | .makeClass name cell scope options, values => buildClass name cell scope options values
  | .text, [v] => return .text (← textOf v)
  | .notes, [.ref error] => shownNotes error
  | _, _ => return .none

end SnippetRunner.Evaluation
