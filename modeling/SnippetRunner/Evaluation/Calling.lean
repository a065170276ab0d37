import SnippetRunner.Evaluation.Member
import SnippetRunner.Evaluation.Names

/-!
# Passing arguments

How the arguments of a call find their parameters, and what is said when they do not fit.
-/

namespace SnippetRunner.Evaluation

open SnippetRunner.Snippet

/-- What a function accepts. -/
structure Signature where
  /-- How the function is named in complaints. -/
  owner : String
  positionalOnly : List String := []
  regular : List String := []
  rest : Option String := none
  keywordOnly : List String := []
  keywords : Option String := none
  /-- Parameters that may be left out. -/
  optional : List String := []

/-- Arguments that have found their parameters, and those that are collected. -/
structure Passed where
  names : Table
  rest : List Value
  keywords : Table

namespace Signature

/-- Parameters that a position fills. -/
def positional (s : Signature) : List String := s.positionalOnly ++ s.regular

/-- The complaint about a named argument that finds no parameter: names of parameters that only a
position fills are told first. -/
def strangeKeyword (s : Signature) (id : String) (keywords : Table) : String :=
  let misused := s.positionalOnly.filter keywords.has
  if misused.isEmpty then s!"{s.owner} got an unexpected keyword argument '{id}'"
  else s!"{s.owner} got some positional-only arguments passed as keyword arguments: "
    ++ "'" ++ String.intercalate ", " misused ++ "'"

/-- Gives the named arguments to their parameters; `given` are all of them. -/
def passKeywords (s : Signature) (given : Table) (passed : Passed) : Table → Except String Passed
  | [] => .ok passed
  | (id, v) :: more =>
    if s.regular.contains id || s.keywordOnly.contains id then
      if passed.names.has id then
        .error s!"{s.owner} got multiple values for argument '{id}'"
      else s.passKeywords given { passed with names := passed.names.put id v } more
    else if s.keywords.isSome then
      if passed.keywords.has id then
        .error s!"{s.owner} got multiple values for keyword argument '{id}'"
      else s.passKeywords given { passed with keywords := passed.keywords.put id v } more
    else .error (s.strangeKeyword id given)

/-- Gives arguments to parameters. -/
def pass (s : Signature) (args : List Value) (keywords : Table) : Except String Passed := do
  let most := s.positional.length
  let passed ← s.passKeywords keywords
    { names := s.positional.zip args, rest := args.drop most, keywords := [] } keywords
  if most < args.length && s.rest.isNone then
    let least := (s.positional.filter fun id => ! s.optional.contains id).length
    let named := s.keywordOnly.filter passed.names.has
    if named.isEmpty then throw (Fault.surplusMessage s.owner least most args.length)
    else
      let range := if least = most then s!"{most}" else s!"from {least} to {most}"
      let plural := if most = 1 && least = most then "" else "s"
      let given := if args.length = 1 then "" else "s"
      let extra := if named.length = 1 then "" else "s"
      throw (s!"{s.owner} takes {range} positional argument{plural} but {args.length} positional "
        ++ s!"argument{given} (and {named.length} keyword-only argument{extra}) were given")
  let missing (ids : List String) := ids.filter fun id =>
    ! passed.names.has id && ! s.optional.contains id
  let lacking := missing s.positional
  if ! lacking.isEmpty then throw (Fault.missingMessage s.owner lacking)
  let lacking := missing s.keywordOnly
  if ! lacking.isEmpty then
    let plural := if lacking.length = 1 then "" else "s"
    throw (s!"{s.owner} missing {lacking.length} required keyword-only argument{plural}: "
      ++ Fault.enumerateNames lacking)
  return passed

/-- Gives arguments to parameters; what does not fit is a type error. -/
def passOrFail (s : Signature) (args : List Value) (keywords : Table) : Native Passed := do
  match s.pass args keywords with
  | .ok passed => return passed
  | .error message => Native.typeError message

end Signature

/-- What a function of the snippet accepts. -/
def Function.signature (f : Function) : Signature :=
  let own := privateName f.owner
  let ids (ps : List Parameter) := ps.map fun p => own p.id
  { owner := f.qualname ++ "()"
    positionalOnly := ids f.parameters.positionalOnly
    regular := ids f.parameters.regular
    rest := f.parameters.rest.map fun p => own p.id
    keywordOnly := ids f.parameters.keywordOnly
    keywords := f.parameters.keywords.map fun p => own p.id
    optional := f.defaults.map (·.1) }

/-- The names of a function at the start of a call. -/
def Function.startNames (f : Function) (args : List Value) (keywords : Table) : Native Table := do
  let s := f.signature
  let passed ← s.passOrFail args keywords
  let filled := (s.positional ++ s.keywordOnly).filterMap fun id =>
    ((passed.names.get? id).orElse fun _ => f.defaults.get? id).map fun v => (id, v)
  let rest := match s.rest with
    | some id => [(id, Value.tuple passed.rest)]
    | none => []
  match s.keywords with
  | none => return filled ++ rest
  | some id =>
    let address ← Native.askObject (.mapping (.ofTable passed.keywords))
    return filled ++ rest ++ [(id, .ref address)]

/-- The block that a function runs in, with its names already there. -/
def Function.activation (f : Function) (scope : Nat) : Activation :=
  { name := f.name, owner := f.owner, qualifier := f.qualname ++ ".<locals>.", file := f.file
    scope := some scope, globals := f.globals, known := f.known }

/-- The scope of a call. -/
def Function.scope (f : Function) (names : Table) : Scope :=
  { kind := f.kind, names := f.names, table := names, parent := f.closure }

/-- The stretch that stands for a whole line, under which no carets are shown. -/
def wholeLine (line : Nat) : Span := { line, column := 0, endLine := line + 1, endColumn := 0 }

/-- Runs a function of the snippet; a function that suspends itself only starts. -/
def enterFunction (f : Function) (args : List Value) (keywords : Table) : Native Value := do
  let names ← f.startNames args keywords
  if f.suspends || f.awaits then
    let kind : Suspension :=
      if ! f.awaits then .generator else if f.suspends then .asyncGenerator else .coroutine
    match ← Native.allocate (.scope (f.scope names)) with
    | .ref scope =>
      Native.allocate
        (.generator kind f.qualname
          (.waiting (f.activation scope) [.block f.body] (wholeLine f.line) false none))
    | v => return v
  else Native.askValue (.enter f names)

end SnippetRunner.Evaluation
