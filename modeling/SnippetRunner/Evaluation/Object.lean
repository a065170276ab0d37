import SnippetRunner.Data.Blocks
import SnippetRunner.Evaluation.Mapping
import SnippetRunner.Fault.Report
import SnippetRunner.Run.Effect
import SnippetRunner.Snippet.Scope

/-!
# Objects and pending work

What references point to, and the work that a running snippet has put off until a value is there
or a statement is done. A generator is an object that holds such work.
-/

namespace SnippetRunner.Evaluation

open SnippetRunner.Snippet

/-! ## Operations -/

/-- How an argument of a call is passed. -/
inductive ArgumentShape where
  | positional
  | spread
  | keyword (id : String)
  | spreadKeywords
  deriving Repr, DecidableEq

/-- What is done with one item of an iterator after the other. The state of a walk is a value. -/
inductive Visitor where
  /-- Looks for an item that counts as true, or as false if that is wanted. -/
  | truth (wanted : Bool)
  /-- Looks for an item that equals a value. -/
  | find (v : Value)
  /-- Adds each item to the state. -/
  | sum
  /-- Looks for the least or the greatest item; the state is empty, or the best key and its
  item. -/
  | best (greatest : Bool) (key : Value)
  /-- Puts each item into a list, a set or a mapping, which is the state. -/
  | gather

/-- Where something is waited for. -/
inductive AwaitRole where
  | expression
  | entering
  | exiting
  deriving Repr, DecidableEq

/-- What is done with values once they are there. -/
inductive Operation where
  /-- A display; the flags tell which values are spread. -/
  | tuple (spread : List Bool)
  | list (spread : List Bool)
  /-- The items of a display without anything to evaluate are gathered before. -/
  | set (spread : List Bool) (constant : Bool)
  /-- Keys and values in turn; a flag that is set stands for one mapping to be spread. -/
  | mapping (spread : List Bool)
  | unary (op : UnaryOp)
  | binary (op : BinaryOp)
  | augmented (op : BinaryOp)
  | compare (op : CompareOp)
  | attribute (name : String)
  | item
  | slice
  | call (shape : List ArgumentShape)
  | setAttribute (name : String)
  | setItem
  | deleteAttribute (name : String)
  | deleteItem
  | truth
  | iterate
  /-- The iterator by which something is waited for; `role` tells where it was written. -/
  | awaitable (role : AwaitRole)
  /-- The asynchronous iterator of a value. -/
  | asyncIterate
  /-- The iterator by which the next item of an asynchronous iterator is waited for. -/
  | asyncNext
  /-- The next item as a tuple of one, or what an iterator ended with as the second of two. -/
  | next
  /-- The same, where a value is sent to the iterator. -/
  | send
  /-- The same, where an error is raised in the iterator. -/
  | throwInto (error : Nat)
  /-- Ends an iterator early. -/
  | close
  /-- Ends a generator that nothing refers to any more. -/
  | discardGenerator
  /-- What a walk through an iterator makes of its state and the next item. -/
  | visit (visitor : Visitor)
  /-- So many items, with a list of the others after the given number if that is present. -/
  | unpack (count : Nat) (rest : Option Nat)
  /-- The parts of a sequence that so many patterns look at. One more takes the others, if there is
  a number of those before it. A `blank` pattern looks at no part, and one that `skips` looks at none
  of the others. -/
  | matchSequence (count : Nat) (rest : Option Nat) (blank skips : Bool)
  /-- Whether a value is a mapping with so many entries at least. -/
  | matchMapping (count : Nat)
  /-- The values under keys, perhaps with the other entries. -/
  | matchKeys (others : Bool)
  /-- The attributes that patterns for a value of a class look at: by position and by name. -/
  | matchInstance (count : Nat) (names : List String)
  | format (conversion : Option Char)
  | join
  | raise
  | raiseFrom
  | assertion
  /-- Whether an error is of a kind or of one among several. -/
  | catches (error : Nat)
  /-- The part of an error that a handler of groups takes, and the rest. -/
  | splitGroup (error : Option Nat)
  /-- What is raised after the handlers of groups: the errors that are left together. -/
  | joinGroup (error : Nat) (raised : List Nat)
  | importModule (name : String) (whole : Bool)
  | importMember (module : String) (level : Nat) (names : List String)
  | member (name : String)
  /-- Enters or leaves a manager; an asynchronous one has to be waited for. -/
  | enter (awaits : Bool)
  | exit (awaits : Bool) (error : Option Nat)
  /-- What a comprehension makes of the items of its generator. -/
  | gather (kind : ComprehensionKind)
  /-- The bases of a class, the names and the values of its options, and names with which its body
  starts. -/
  | openClass (name : String) (shape : List ArgumentShape)
  /-- Makes a class of the names that its body left in a scope. The last values are its options,
  which have names. -/
  | makeClass (name : String) (cell scope : Nat) (options : List String)
  | text
  /-- What is shown of the notes of an error. -/
  | notes

/-! ## Machine parts -/

/-- A block that is being run. -/
structure Activation where
  name : String
  /-- The class in whose body it was written. -/
  owner : Option String := none
  /-- What stands before the names of functions and classes that are defined here. -/
  qualifier : String
  file : String
  /-- Where its own names are; without one they are the global ones. -/
  scope : Option Nat
  globals : Nat
  /-- Where the known names are. -/
  known : Nat
  deriving Repr, Inhabited

/-- Ways to leave a block early. -/
inductive Leave where
  | break_
  | continue_
  | returned (v : Value)

/-- The answer to a question of an operation. -/
inductive Answer where
  | value (v : Value)
  | raised (error : Nat)
  | effect (reply : EffectReply)

/-- What is being done. -/
inductive Control where
  | eval (e : Expr)
  | give (v : Value)
  | exec (s : Stmt)
  | done
  | store (target : Expr) (v : Value)
  /-- Compares a value with a pattern. -/
  | fit (pattern : Pattern) (v : Value)
  | perform (op : Operation) (args : List Value) (answers : List Answer) (span : Option Span)
  | raise (error : Nat)
  | leave (how : Leave)

/-- How a block ended. -/
inductive Completion where
  | normal
  | raised (error : Nat)
  | left (how : Leave)

/-- An error on which handlers of groups are tried one after another. -/
structure GroupHandling where
  error : Nat
  /-- The part that no handler has taken. -/
  left : Option Nat
  /-- What handlers have raised, last one first. -/
  raised : List Nat := []
  handlers : List Handler
  /-- The error that was handled before. -/
  before : Option Nat

/-- Work that was put off. The first ones wait for a value, the next ones for a statement to be
done; the last ones are the borders between blocks. -/
inductive Pending where
  /-- Evaluates the other operands and performs an operation on all. -/
  | operands (op : Operation) (done : List Value) (rest : List Expr) (span : Span)
  /-- Repeats an operation with one more answer. Without a place it belongs to no line. -/
  | answering (op : Operation) (args : List Value) (answers : List Answer) (span : Option Span)
  /-- Gathers the items of an iterator, last one first. -/
  | collecting (iterator : Value) (items : List Value)
  /-- Walks through an iterator: waits for its next item, and for what is made of it. -/
  | walking (visitor : Visitor) (iterator state : Value)
  | visited (visitor : Visitor) (iterator : Value)
  | discard
  | assignTo (targets : List Expr)
  | annotate (target hint : Expr) (bare : Bool) (span : Span)
  /-- Keeps the type hint of a name. -/
  | keepHint (id : String) (span : Span)
  | unpackInto (targets : List Expr)
  | augmentBase (member : Option String) (op : BinaryOp) (value : Expr)
      (span targetSpan : Span)
  | augmentLoaded (store : Operation) (base : List Value) (op : BinaryOp) (value : Expr)
      (span targetSpan : Span)
  | storeBack (op : Operation) (base : List Value) (span : Span)
  | boolean (conjunction : Bool) (rest : List Expr) (span : Span)
  | booleanKnown (conjunction : Bool) (v : Value) (rest : List Expr) (span : Span)
  /-- Takes the truth of a value. -/
  | truth (span : Span)
  | negate
  /-- Goes on with the truth of a conjunction or a disjunction. -/
  | testMore (conjunction : Bool) (rest : List Expr) (span : Span)
  /-- Goes on with the truth of one of two values. -/
  | testChosen (yes no : Expr) (spanYes spanNo : Span)
  | compareWith (op : CompareOp) (left : Value) (rest : List (CompareOp × Expr)) (span : Span)
  | compareMore (left : Value) (rest : List (CompareOp × Expr)) (span : Span)
  | compareNext (first : CompareOp × Expr) (rest : List (CompareOp × Expr)) (span : Span)
  | choose (yes no : Expr)
  | nameIt (id : String)
  | pieces (done : List Value) (rest : List Piece) (span : Span)
  | pieceValue (conversion : Option Char) (format : List Piece) (span : Span)
  | pieceFormat (conversion : Option Char) (v : Value) (span : Span)
  | comprehend (kind : ComprehensionKind) (awaits : Bool) (body : List Stmt) (names : Names) (span : Span)
  | yielding (span : Span)
  | delegateTo (span : Span)
  | delegating (iterator : Value) (span : Span)
  | delegated (iterator : Value) (span : Span)
  /-- Raises an error once something is done. -/
  | raising (error : Nat) (span : Span)
  | returning
  | branch (body orElse : List Stmt)
  | loopTest (test : Expr) (body orElse : List Stmt) (span : Span)
  | loopStart (target : Expr) (body orElse : List Stmt) (span : Span)
  | loopItem (iterator : Value) (target : Expr) (body orElse : List Stmt) (span : Span)
  /-- Begins a loop that waits for its items. -/
  | asyncStart (target : Expr) (body orElse : List Stmt) (span : Span)
  /-- Waits for the item of such a loop, which may end instead. -/
  | asyncItem (iterator : Value) (target : Expr) (body orElse : List Stmt) (span : Span)
  /-- Waits for the items of a comprehension. -/
  | asyncGather (kind : ComprehensionKind) (generator : Value) (items : List Value) (span : Span)
  | asserting (message : Option Expr) (span : Span)
  | matching (error : Nat) (handler : Handler) (rest : List Handler)
  | matched (error : Nat) (handler : Handler) (rest : List Handler)
  /-- Goes on with a handler of groups once its kinds are known, and once the error is split. -/
  | groupTried (group : GroupHandling) (handler : Handler)
  | groupSplit (group : GroupHandling) (handler : Handler)
  | groupJoined (before : Option Nat)
  -- what a pattern comes to is nothing, or the names it binds with their values
  /-- Looks for the case of a value. -/
  | choosing (cases : List Case)
  | caseTried (subject : Value) (guard : Option Expr) (body : List Stmt) (rest : List Case)
      (span : Span)
  /-- Goes on with a case whose condition holds. -/
  | guarded (subject : Value) (body : List Stmt) (rest : List Case)
  | equalTo (subject : Value) (span : Span)
  | equalKnown (span : Span)
  | partTried (bound : List Value) (rest : List (Pattern × Value))
  | alternativeTried (subject : Value) (rest : List Pattern)
  | nameTried (subject : Value) (id : String)
  | sequenceParts (patterns : List Pattern)
  | mappingKnown (subject : Value) (entries : List (Expr × Pattern)) (others : Option String)
      (span : Span)
  | mappingParts (patterns : List Pattern)
  | instanceParts (patterns : List Pattern)
  | importNext (item : Alias) (rest : List Alias) (span : Span)
  | importMembers (names : List Alias) (span : Span)
  | importMember (module : Value) (item : Alias) (rest : List Alias) (span : Span)
  | manage (awaits : Bool) (target : Option Expr) (rest : List (Expr × Option Expr))
      (body : List Stmt) (span : Span)
  | managed (awaits : Bool) (manager : Value) (target : Option Expr) (rest : List (Expr × Option Expr))
      (body : List Stmt) (span : Span)
  | exited (completion : Completion) (before : Option Nat) (span : Span)
  | define (awaits : Bool) (name : String) (params : Parameters) (returns : Option Expr) (body : List Stmt)
      (decorators : List Expr) (line : Nat)
  | defineLambda (params : Parameters) (body : Expr)
  | decorate (decorators : List (Value × Span)) (name : String)
  | defineClass (name : String) (arguments : List Argument) (body : List Stmt)
      (decorators : List Expr) (span : Span)
  /-- Begins a class with its bases, its options and the names that are there at its start. -/
  | openedClass (name : String) (body : List Stmt) (decorators : List (Value × Span))
      (span : Span)
  -- these wait for a statement to be done
  | block (rest : List Stmt)
  | storeEach (targets : List (Expr × Value))
  /-- Takes the type hint of a target that has its value. -/
  | hinted (target hint : Expr) (bare : Bool) (span : Span)
  | startManaged (awaits : Bool) (rest : List (Expr × Option Expr)) (body : List Stmt) (span : Span)
  | loop (test : Expr) (body orElse : List Stmt) (span : Span)
  | loopOver (iterator : Value) (target : Expr) (body orElse : List Stmt) (span : Span)
  | asyncOver (iterator : Value) (target : Expr) (body orElse : List Stmt) (span : Span)
  | handlers (handlers : List Handler) (orElse : List Stmt)
  | handled (name : Option String) (before : Option Nat)
  | groupHandlers (handlers : List Handler) (orElse : List Stmt)
  /-- Ends a handler of groups that has handled a part of the error. -/
  | groupHandled (group : GroupHandling) (name : Option String) (part : Nat)
  | final (body : List Stmt)
  | resumeAfter (completion : Completion) (before : Option Nat)
  | withBody (awaits : Bool) (manager : Value) (span : Span)
  -- these are the borders between blocks
  | caller (activation : Activation) (handling : Option Nat)
  | classBody (name : String) (bases : List Value) (options : Table) (cell scope : Nat)
      (decorators : List (Value × Span)) (span : Span) (activation : Activation)
      (handling : Option Nat)
  | resumed (generator : Nat) (activation : Activation) (handling : Option Nat)
  /-- Goes on as before something was done in between. -/
  | interrupted (control : Control)

/-! ## Objects -/

/-- The names of a block that is no program of its own. -/
structure Scope where
  kind : ScopeKind
  names : Names
  table : Table
  /-- The nearest function around it. -/
  parent : Option Nat

/-- A function. -/
structure Function where
  name : String
  qualname : String
  file : String
  parameters : Parameters
  defaults : Table
  kind : ScopeKind
  names : Names
  body : List Stmt
  suspends : Bool
  /-- Whether it may wait, and is waited for. -/
  awaits : Bool := false
  /-- The line on which it begins. -/
  line : Nat
  /-- The class in whose body it was written. -/
  owner : Option String := none
  globals : Nat
  known : Nat
  closure : Option Nat
  attributes : Table := []

/-- A class. -/
structure Class where
  name : String
  qualname : String
  bases : List Value
  attributes : Table
  /-- The attributes that its values may have, if it lists them. -/
  slots : Option (List String) := none
  /-- The type that it is a value of. -/
  metaclass : Value := .type "type"

/-- An error that can be raised. -/
structure Error where
  kind : Value
  args : List Value
  attributes : Table := []
  /-- What its kind tells about it beyond its arguments. -/
  details : Table := []
  cause : Option Nat := none
  context : Option Nat := none
  suppress : Bool := false
  frames : List Fault.Frame := []
  /-- The scopes of the blocks it went through. -/
  scopes : List Nat := []

/-- What a view shows of a mapping. -/
inductive Aspect where
  | keys
  | values
  | items
  deriving Repr, DecidableEq

/-- A source of items. -/
inductive Iterator where
  | items (typeName : String) (rest : List Value)
  | listItems (list index : Nat)
  /-- The items of a list from before a place to its start. -/
  | listBack (list index : Nat)
  /-- A mapping that must keep its size, from a row on or back; `left` items are still to come. -/
  | rows (aspect : Aspect) (mapping row size left : Nat) (back : Bool)
  /-- A set that must keep its size, from a slot on. -/
  | slots (set slot size : Nat)
  /-- A value whose class tells what stands under an index, from an index on or back. -/
  | indexed (owner : Value) (index : Int) (back : Bool)
  | range (next stop step : Int)
  | map (function : Value) (sources : List Value)
  | filter (function source : Value)
  | zip (sources : List Value) (strict : Bool)
  | enumerate (source : Value) (count : Int)
  | untilSentinel (function sentinel : Value)
  /-- One step of an asynchronous generator, which is waited for: what is sent to it, or the error
  that is raised in it. A step that `ends` the generator takes no item from it. -/
  | asyncStep (name : String) (generator : Nat) (sent : Value) (error : Option Nat)
      (ends started finished : Bool)
  /-- By which a coroutine is waited for. -/
  | waiting (coroutine : Nat)

/-- What a function that suspends itself makes when it is called. -/
inductive Suspension where
  | generator
  /-- Something that is waited for. -/
  | coroutine
  /-- A generator whose items are waited for. -/
  | asyncGenerator
  deriving Repr, DecidableEq

/-- How something that suspends itself is called in complaints. -/
def Suspension.phrase : Suspension → String
  | .generator => "generator"
  | .coroutine => "coroutine"
  | .asyncGenerator => "async generator"

/-- The name of the type of something that suspends itself. -/
def Suspension.typeName : Suspension → String
  | .generator => "generator"
  | .coroutine => "coroutine"
  | .asyncGenerator => "async_generator"

/-- What stands before the names by which something that suspends itself tells of itself. -/
def Suspension.shortName : Suspension → String
  | .generator => "gi"
  | .coroutine => "cr"
  | .asyncGenerator => "ag"

/-- Where a generator stands. -/
inductive Progress where
  /-- It waits at a place, its start or a suspension, with the work it has put off and the error
  that it handles. -/
  | waiting (activation : Activation) (work : List Pending) (place : Span) (started : Bool)
      (handling : Option Nat)
  | running
  | finished

/-- What wraps a function in a class. -/
inductive Wrapper where
  | static
  | ofClass
  deriving Repr, DecidableEq

/-- What a reference points to. -/
inductive Object where
  | list (items : Array Value)
  /-- A byte string that can be changed. -/
  | buffer (bytes : List UInt8)
  | mapping (entries : Mapping)
  | set (frozen : Bool) (keys : KeySet)
  | view (aspect : Aspect) (mapping : Nat)
  /-- The names of a program or of the known functions. -/
  | names (table : Table)
  /-- The attributes of an object as a mapping, perhaps one that nobody may change. -/
  | members (owner : Nat) (fixed : Bool)
  | scope (scope : Scope)
  | function (function : Function)
  | class_ (class_ : Class)
  /-- A value of a class. Where the class inherits from a known type, `content` is what the value
  is made of as one of that type. -/
  | instance_ (kind : Nat) (attributes : Table) (content : Value)
  /-- An object of no class in particular. -/
  | plain
  | error (error : Error)
  /-- A module and where its names are. -/
  | module (name : String) (names : Nat)
  | iterator (iterator : Iterator)
  | generator (kind : Suspension) (name : String) (progress : Progress)
  | wrapped (wrapper : Wrapper) (function : Value)
  /-- A member whose value a function tells, and which others may set or delete. -/
  | property (getter setter deleter : Value)
  | super (start : Value) (self : Value)
  /-- Several types of which a value may have any. -/
  | union (kinds : List Value)
  /-- A type with other types as its arguments. -/
  | generic (origin : Value) (args : List Value)
  /-- The body of a function. -/
  | code (function : Nat)
  /-- A name of a function that functions inside it share. -/
  | cell (scope : Nat) (name : String)
  /-- The places that an error has gone through. -/
  | trace (frames : List Fault.Frame)
  /-- A member of a class for an attribute that the class lists. -/
  | slot (owner : Nat) (name : String)

/-- The key under which values keep an attribute that the class at an address lists. -/
def slotKey (owner : Nat) (name : String) : String := s!"\x00{owner} {name}"

/-- The key under which a value says first where its attributes are, if others have them too. -/
def linkKey : String := "\x00"

/-- Whether a key is that of a listed attribute, or of the place of others. -/
def isHiddenKey (key : String) : Bool := key.startsWith "\x00"

/-- All objects, by address, and the modules that have been loaded. -/
structure Heap where
  objects : Blocks Object := {}
  modules : List (String × Nat) := []
  /-- What the surroundings hold: the names of programs, and callbacks. -/
  held : List Value := []
  /-- Generators that wait inside a statement that still has to do something at its end. -/
  unfinished : List Nat := []

namespace Heap

/-- The object at an address. -/
def get? (h : Heap) (address : Nat) : Option Object := h.objects.get? address

/-- Puts a new object at a new address. -/
def allocate (h : Heap) (o : Object) : Nat × Heap :=
  (h.objects.size, { h with objects := h.objects.push o })

/-- Replaces the object at an address. -/
def set (h : Heap) (address : Nat) (o : Object) : Heap :=
  { h with objects := h.objects.set address o }

/-- Changes the object at an address; others stay. -/
def modify (h : Heap) (address : Nat) (f : Object → Object) : Heap :=
  { h with objects := h.objects.modify address f }

/-- The names at an address. -/
def names (h : Heap) (address : Nat) : Table :=
  match h.get? address with
  | some (.names table) => table
  | _ => []

/-- Changes the names of a program. -/
def mapNames (h : Heap) (address : Nat) (f : Table → Table) : Heap :=
  h.modify address fun
    | .names table => .names (f table)
    | o => o

/-- Where the attributes of a value are, if others have them too. -/
def linkOf? : Table → Option Nat
  | (key, .ref address) :: _ => if key == linkKey then some address else none
  | _ => none

/-- The attributes that stand at an address for several values; `fuel` bounds how often others are
asked. -/
def sharedAttributes (h : Heap) : Nat → Nat → Table
  | 0, _ => []
  | fuel + 1, address =>
    match h.get? address with
    | some (.mapping t) => t.entries.filterMap fun e =>
      match e.key with
      | .text id => some (id, e.value)
      | _ => none
    | some (.names table) => table
    | some (.members owner _) => h.sharedAttributes fuel owner
    | some (.instance_ _ attributes _) =>
      match linkOf? attributes with
      | some other => h.sharedAttributes fuel other
      | none => attributes.filter fun (name, _) => ! isHiddenKey name
    | _ => []

/-- The attributes of the object at an address. -/
def attributes (h : Heap) (address : Nat) : Table :=
  match h.get? address with
  | some (.instance_ _ attributes _) =>
    match linkOf? attributes with
    | some other => attributes ++ h.sharedAttributes 20 other
    | none => attributes
  | some (.error e) => e.attributes
  | some (.class_ c) => c.attributes
  | some (.function f) => f.attributes
  | some (.module _ names) => h.names names
  | _ => []

/-- Changes the attributes that stand at an address for several values; `fuel` bounds how often
others are asked. -/
def mapShared (h : Heap) (f : Table → Table) : Nat → Nat → Heap
  | 0, _ => h
  | fuel + 1, address =>
    match h.get? address with
    | some (.mapping t) =>
      let named := t.entries.filterMap fun e =>
        match e.key with
        | .text id => some (id, e.value)
        | _ => none
      let others := t.entries.filter fun e =>
        match e.key with
        | .text _ => false
        | _ => true
      let made := others.foldl (fun t e => t.add e.hash e.key e.value) (Mapping.ofTable (f named))
      h.set address (.mapping made)
    | some (.names table) => h.set address (.names (f table))
    | some (.members owner _) => h.mapShared f fuel owner
    | some (.instance_ kind attributes content) =>
      match linkOf? attributes with
      | some other => h.mapShared f fuel other
      | none =>
        let (hidden, shown) := attributes.partition fun (name, _) => isHiddenKey name
        h.set address (.instance_ kind (hidden ++ f shown) content)
    | _ => h

/-- Changes the attributes of the object at an address. -/
def mapAttributes (h : Heap) (address : Nat) (f : Table → Table) : Heap :=
  match h.get? address with
  | some (.module _ names) => h.mapNames names f
  | some (.instance_ _ ((key, .ref other) :: _) _) =>
    if key == linkKey then h.mapShared f 20 other else mapped
  | _ => mapped
where
  /-- The change of what the object itself holds. -/
  mapped : Heap :=
    h.modify address fun
      | .instance_ kind attributes content => .instance_ kind (f attributes) content
      | .error e => .error { e with attributes := f e.attributes }
      | .class_ c => .class_ { c with attributes := f c.attributes }
      | .function g => .function { g with attributes := f g.attributes }
      | o => o

/-- The error at an address. -/
def error? (h : Heap) (address : Nat) : Option Error :=
  match h.get? address with
  | some (.error e) => some e
  | _ => none

/-- Changes the error at an address. -/
def mapError (h : Heap) (address : Nat) (f : Error → Error) : Heap :=
  match h.get? address with
  | some (.error e) => h.set address (.error (f e))
  | _ => h

end Heap

/-- A callback of a timer: a function and its arguments. -/
structure Callback where
  function : Value
  args : List Value

/-- A snippet's requests. -/
abbrev Request := Effect Float Callback

/-- The values that the surroundings hold once they have a request. -/
def Request.held : Request → List Value
  | .callLater _ (.callable c) | .callEvery _ (.callable c) => c.function :: c.args
  | _ => []

end SnippetRunner.Evaluation
