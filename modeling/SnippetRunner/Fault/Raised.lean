import SnippetRunner.Fault.Kind
import SnippetRunner.Fault.Own
import SnippetRunner.Fault.Source

/-!
# Raised errors as plain data

An error of some kind with its arguments, the error it follows from or happened during, and notes
added to it. The module says what its text is, and which arguments a kind accepts.
-/

namespace SnippetRunner.Fault

/-- An error with its arguments and the errors it is chained to. -/
structure Raised where
  kind : String
  args : List Data := []
  cause : Option Raised := none
  context : Option Raised := none
  /-- Whether the context is left out of a report. -/
  suppress : Bool := false
  notes : List String := []
  deriving Inhabited

/-- Names in a sentence: `'a'`, `'a' and 'b'`, `'a', 'b', and 'c'`. -/
def enumerateNames (names : List String) : String :=
  let named := names.map fun n => "'" ++ n ++ "'"
  match named.reverse with
  | [] => ""
  | [single] => single
  | [second, first] => first ++ " and " ++ second
  | last :: more => String.intercalate ", " more.reverse ++ ", and " ++ last

/-- The complaint about missing arguments. -/
def missingMessage (owner : String) (names : List String) : String :=
  let plural := if names.length = 1 then "" else "s"
  s!"{owner} missing {names.length} required positional argument{plural}: {enumerateNames names}"

/-- The complaint about too many arguments; the owner itself counts as one. -/
def surplusMessage (owner : String) (least most given : Nat) : String :=
  let range := if least = most then s!"{most}" else s!"from {least} to {most}"
  let plural := if most = 1 && least = most then "" else "s"
  let verb := if given = 1 then "was" else "were"
  s!"{owner} takes {range} positional argument{plural} but {given} {verb} given"

/-- Arguments filled up to the given names: required ones must be there, others are null. -/
def fillArguments (kind : String) (required optional : List String) (args : List Data) :
    Except Problem (List Data) :=
  let owner := kind ++ ".__init__()"
  let least := required.length
  let most := least + optional.length
  if most < args.length then
    .error ⟨"TypeError", surplusMessage owner (least + 1) (most + 1) (args.length + 1)⟩
  else if args.length < least then
    .error ⟨"TypeError", missingMessage owner (required.drop args.length)⟩
  else .ok (args ++ List.replicate (most - args.length) .null)

/-- The extra content of an error of the runner's own kinds; none for other kinds. -/
def ownError? (kind : String) (args : List Data) : Except Problem (Option OwnError) := do
  if kind == "TranspilerUnavailableError" then
    match ← fillArguments kind ["dialect", "package"] ["detail"] args with
    | [dialect, package, detail] => return some (← OwnError.unavailable dialect package detail)
    | _ => return none
  else if kind == "TranspileError" then
    match ← fillArguments kind ["dialect", "message"] ["lineno"] args with
    | [dialect, message, line] => return some (.transpileFailed dialect message line)
    | _ => return none
  else if kind == "ExecutionTimeoutError" then
    match ← fillArguments kind ["timeout"] [] args with
    | [timeout] => return some (← OwnError.timeout timeout)
    | _ => return none
  else return none

/-- A group is made of a text and errors, of which plain data has none. -/
def groupProblem (args : List Data) : Problem :=
  let owner := "BaseExceptionGroup.__new__()"
  match args with
  | [.text _, .mapping _] | [.text _, .set _] =>
    ⟨"TypeError", "second argument (exceptions) must be a sequence"⟩
  | [.text _, v] =>
    match v.items with
    | .error _ => ⟨"TypeError", "second argument (exceptions) must be a sequence"⟩
    | .ok [] => ⟨"ValueError", "second argument (exceptions) must be a non-empty sequence"⟩
    | .ok _ => ⟨"ValueError", "Item 0 of second argument (exceptions) is not an exception"⟩
  | [v, _] => wrongArgument (owner ++ " ") 1 v
  | _ => ⟨"TypeError", countMessage owner 2 2 args.length⟩

/-- The text of an error from its arguments alone. -/
def argumentText (kind : String) (args : List Data) : String :=
  match args with
  | [] => ""
  | [single] => if isKindOf kind "KeyError" then single.quoted else single.shown
  | _ =>
    match if isKindOf kind "OSError" then Numbered.ofArguments? kind args else none with
    | some e => e.text
    | none => (Data.tuple args).quoted

/-- The text of an error of a kind, if the kind accepts its arguments. -/
def textOf (kind : String) (args : List Data) : Except Problem String := do
  if let some own ← ownError? kind args then return own.message
  if let some coding ← CodingFault.ofArguments kind args then return coding.text
  if isKindOf kind "BaseExceptionGroup" then throw (groupProblem args)
  if isKindOf kind "SyntaxError" then return (← SourceDetail.ofArguments args).describe
  if let some problem := countProblem? kind args then throw problem
  return argumentText kind args

namespace Raised

/-- The text of an error. -/
def text (r : Raised) : String := (textOf r.kind r.args).toOption.getD ""

/-- The class and text of an error. -/
def problem (r : Raised) : Problem := ⟨r.kind, r.text⟩

/-- The error that tells of a problem. -/
def ofProblem (p : Problem) : Raised := { kind := p.kind, args := [.text p.message] }

/-- An error under its own kind, if that kind, and the kinds of the errors it is chained to, accept
their arguments. -/
def made : Raised → Except Problem Raised
  | ⟨name, args, cause, context, suppress, notes⟩ => do
    let kind := kindOf name args
    let _ ← textOf kind args
    let cause ← match cause with
      | some c => pure (some (← c.made))
      | none => pure none
    let context ← match context with
      | some c => pure (some (← c.made))
      | none => pure none
    return { kind, args, cause, context, suppress, notes }

/-- What a user is shown for an error. -/
def explanation (r : Raised) : String :=
  match ownError? r.kind r.args with
  | .ok (some own) => own.explanation
  | _ => r.text

end Raised

end SnippetRunner.Fault
