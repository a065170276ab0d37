import SnippetRunner.Evaluation.Names

/-!
# What a function tells about itself

The defaults of its parameters, the names that its body uses, and the values that it takes from the
functions around it.
-/

namespace SnippetRunner.Evaluation

open SnippetRunner.Snippet

/-! ## Names from around -/

/-- The names that a block uses without binding them, and those that blocks inside it take from
outside. -/
def usedNames : List Mention → List String
  | [] => []
  | .use "super" :: rest => "super" :: "__class__" :: usedNames rest
  | .use id :: rest | .declareNonlocal id _ :: rest => id :: usedNames rest
  | .inner kind parameters ms :: rest =>
    let names := Names.of kind (parameters.map (·.1)) ms
    let own := if kind == .class_ then [] else names.locals
    (usedNames ms).filter (fun id => ! own.contains id && ! names.globals.contains id)
      ++ usedNames rest
  | _ :: rest => usedNames rest

/-- Names in order, each once. -/
def inOrder (names : List String) : List String :=
  (names.eraseDups).mergeSort fun a b => decide (a ≤ b)

/-- The names that a function takes from functions around it, with the scopes that hold them. -/
def Heap.takenNames (h : Heap) (f : Function) : List (String × Nat) :=
  let own := privateName f.owner
  let used := inOrder ((usedNames (stmtsMentions f.body)).map own)
  let free := used.filter fun id =>
    ! f.names.locals.contains id && ! f.names.globals.contains id
  free.filterMap fun id => (h.outerScope? id 100 f.closure).map fun scope => (id, scope)

/-- The own names of a function that blocks inside it use. -/
def givenNames (f : Function) : List String :=
  let inner := (stmtsMentions f.body).filter fun m =>
    match m with
    | .inner _ _ _ => true
    | _ => false
  inOrder (((usedNames inner).map (privateName f.owner)).filter f.names.locals.contains)

/-! ## Parts -/

/-- The names of the parameters in the order in which a function lists them. -/
def parameterNames (f : Function) : List String :=
  let p := f.parameters
  (p.positional ++ p.keywordOnly ++ p.rest.toList ++ p.keywords.toList).map fun q =>
    privateName f.owner q.id

/-- The names that a function lists as its own: its parameters, and others that no block inside it
uses. -/
def listedNames (f : Function) : List String :=
  let first := parameterNames f
  let given := givenNames f
  first ++ f.names.locals.filter fun id => ! first.contains id && ! given.contains id

/-- The marks of a function as a number. -/
def codeFlags (f : Function) : Nat :=
  let p := f.parameters
  3 + (if p.rest.isSome then 4 else 0) + (if p.keywords.isSome then 8 else 0)
    + (if f.closure.isSome then 16 else 0)
    + (if f.suspends && ! f.awaits then 32 else 0)
    + (if f.awaits && ! f.suspends then 128 else 0)
    + (if f.awaits && f.suspends then 512 else 0)

/-- A row of texts. -/
def textRow (names : List String) : Value := .tuple (names.map .text)

/-- What the body of a function tells about itself. -/
def codeMember? (h : Heap) (f : Function) : String → Option Value
  | "co_name" => some (.text f.name)
  | "co_qualname" => some (.text f.qualname)
  | "co_filename" => some (.text f.file)
  | "co_firstlineno" => some (.int f.line)
  | "co_argcount" => some (.int f.parameters.positional.length)
  | "co_posonlyargcount" => some (.int f.parameters.positionalOnly.length)
  | "co_kwonlyargcount" => some (.int f.parameters.keywordOnly.length)
  | "co_nlocals" => some (.int (listedNames f).length)
  | "co_varnames" => some (textRow (listedNames f))
  | "co_freevars" => some (textRow ((h.takenNames f).map (·.1)))
  | "co_cellvars" => some (textRow (givenNames f))
  | "co_flags" => some (.int (codeFlags f))
  | _ => none

/-- The default values of the parameters that a position fills. -/
def positionalDefaults (f : Function) : List Value :=
  let ids := f.parameters.positional.map fun p => privateName f.owner p.id
  (f.defaults.filter fun (id, _) => ids.contains id).map (·.2)

/-- The default values of the parameters that only a name fills. -/
def namedDefaults (f : Function) : Table :=
  let ids := f.parameters.keywordOnly.map fun p => privateName f.owner p.id
  f.defaults.filter fun (id, _) => ids.contains id

/-- A function whose parameters that a position fills have other default values, those of the last
ones. -/
def Function.withDefaults (f : Function) (values : List Value) : Function :=
  let ids := f.parameters.positional.map fun p => privateName f.owner p.id
  let last := ids.drop (ids.length - values.length)
  { f with defaults := last.zip (values.drop (values.length - last.length)) ++ namedDefaults f }

/-- A function whose parameters that only a name fills have other default values. -/
def Function.withNamedDefaults (f : Function) (values : Table) : Function :=
  let named := namedDefaults f
  { f with
    defaults := (f.defaults.filter fun (id, _) => ! named.has id) ++ values }

/-- What a function tells about itself that is made when it is asked. -/
def madePart? (f : Function) (address : Nat) (name : String) : Native (Option Value) := do
  let h ← Native.heap
  match name with
  | "__code__" => return some (← Native.allocate (.code address))
  | "__kwdefaults__" =>
    let named := namedDefaults f
    if named.isEmpty then return some .none
    else return some (← Native.allocate (.mapping (.ofTable named)))
  | "__closure__" =>
    let taken := h.takenNames f
    if taken.isEmpty then return some .none
    else return some (.tuple (← taken.mapM fun (id, scope) => Native.allocate (.cell scope id)))
  | _ => return none

end SnippetRunner.Evaluation
