import SnippetRunner.Evaluation.Conversion
import SnippetRunner.Evaluation.Member

/-!
# Groups and notes of errors

An error can be a group of others. A group is split by a condition into the part that fulfils it
and the rest; each part keeps the form of the group. Handlers of groups split an error one after
another, and what is left is joined with the errors that the handlers have raised.

Notes can be added to an error. They are a row of values, each of which is shown on lines of its
own; any other value is shown as it is written, without an end of line.
-/

namespace SnippetRunner.Evaluation

/-- A text of a value, or words that tell of its failure. -/
def textOrFailure (what function : String) (text : Native String) : Native String :=
  try text catch
    | .fail _ _ => return s!"<{what} {function}() failed>"
    | halt => throw halt

/-- The notes of an error, if it has any. Where they cannot be had, that is the note. -/
def givenNotes? (error : Nat) : Native (Option Value) := do
  try memberOf? (.ref error) "__notes__" catch
    | .fail failure _ => do
      let shown ← textOrFailure "__notes__" "repr" (inspect (.ref failure))
      return some (.tuple [.text s!"Ignored error getting __notes__: {shown}"])
    | halt => throw halt

/-- The items of a value that is a row. -/
def rowItems? (v : Value) : Native (Option (List Value)) := do
  let h ← Native.heap
  match h.core v with
  | .text _ | .bytes _ | .tuple _ | .range _ _ _ => return some (← itemsOf v)
  | _ => if (h.list? v).isSome then return some (← itemsOf v) else return none

/-- The lines of the notes of an error, and what is shown after them without an end of line. -/
def shownNotes (error : Nat) : Native Value := do
  match ← givenNotes? error with
  | none | some .none => return .tuple [.tuple [], .none]
  | some v =>
    match ← rowItems? v with
    | some items =>
      let texts ← items.mapM fun item => textOrFailure "note" "str" (textOf item)
      let lines := texts.flatMap fun s => (s.splitOn "\n").map Value.text
      return .tuple [.tuple lines, .none]
    | none => return .tuple [.tuple [], .text (← textOrFailure "__notes__" "repr" (inspect v))]

/-! ## Making groups -/

/-- The kind of all groups of errors. -/
def groupKind : Value := .type "BaseExceptionGroup"

/-- The kind of groups of which each error is one that programs are meant to catch. -/
def plainGroupKind : Value := .type "ExceptionGroup"

/-- The kind of errors that programs are meant to catch. -/
def plainErrorKind : Value := .type "Exception"

/-- The errors in a group; none if an error is no group. -/
def Heap.groupMembers? (h : Heap) (error : Nat) : Option (List Nat) :=
  match (h.error? error).bind (·.details.get? "exceptions") with
  | some (.tuple members) => some (members.filterMap fun
      | .ref address => some address
      | _ => none)
  | _ => none

/-- The kind of a group with some members, if it can have them: one that is not told apart is a
plain group where it can be. -/
def groupKindFor (kind : Value) (members : List Value) : Native Value := do
  let h ← Native.heap
  let plain := members.all fun v => h.inherits (h.typeOf v) plainErrorKind
  let refuse (kind : String) : Native Value :=
    Native.typeError s!"Cannot nest BaseExceptions in {kind}"
  if Heap.sameKind kind groupKind then return if plain then plainGroupKind else groupKind
  else if plain then return kind
  else if Heap.sameKind kind plainGroupKind then refuse "an ExceptionGroup"
  else if h.inherits kind plainErrorKind then refuse s!"'{h.kindName kind}'"
  else return kind

/-- Whether the items of a value stand in an order. -/
def isOrdered (v : Value) : Native Bool := do
  let h ← Native.heap
  match h.core v with
  | .text _ | .bytes _ | .tuple _ | .range _ _ _ => return true
  | _ => return (h.list? v).isSome || (h.special? v "__getitem__").isSome

/-- A group from the arguments of a call: a text and a row of errors. -/
def groupFrom (kind : Value) (args : List Value) : Native Error := do
  let owner := "BaseExceptionGroup.__new__()"
  match args with
  | [message, row] =>
    let _ ← textArgument s!"{owner} argument 1 " message
    if ! (← isOrdered row) then
      Native.typeError "second argument (exceptions) must be a sequence"
    let members ← itemsOf row
    if members.isEmpty then
      Native.valueError "second argument (exceptions) must be a non-empty sequence"
    let h ← Native.heap
    match members.findIdx? fun v => ! h.isErrorKind (h.typeOf v) with
    | some i => Native.valueError s!"Item {i} of second argument (exceptions) is not an exception"
    | none =>
      let details : Table := [("message", message), ("exceptions", .tuple members)]
      return { kind := ← groupKindFor kind members, args, details }
  | _ => Native.typeError s!"{owner} takes exactly 2 arguments ({args.length} given)"

/-- A new group that stays. -/
def newGroup (message : Value) (row : Value) : Native Nat := do
  Native.askObject (.error (← groupFrom groupKind [message, row]))

/-! ## Parts of groups -/

/-- A part of a group, if it has members: it has the message and the history of the whole. -/
def subgroupOf (group : Nat) (members : List Nat) : Native (Option Nat) := do
  if members.isEmpty then return none
  let row ← Native.askObject (.list (members.map Value.ref).toArray)
  let h ← Native.heap
  let whole := (h.error? group).getD { kind := groupKind, args := [] }
  let part ← match h.classMember? whole.kind "derive" with
    | some method =>
      match ← askMethod (.ref group) method [.ref row] with
      | .ref address => pure address
      | _ => Native.typeError "derive must return an instance of BaseExceptionGroup"
    | none => newGroup ((whole.details.get? "message").getD (.text "")) (.ref row)
  let h ← Native.heap
  if (h.groupMembers? part).isNone then
    Native.typeError "derive must return an instance of BaseExceptionGroup"
  let notes : Table ← match whole.attributes.get? "__notes__" with
    | some notes =>
      match h.list? notes with
      | some items => pure [("__notes__", .ref (← Native.askObject (.list items)))]
      | none => pure []
    | none => pure []
  Native.modifyHeap fun h => h.mapError part fun e =>
    { e with
      frames := whole.frames, cause := whole.cause, context := whole.context, suppress := true
      attributes := e.attributes.update notes }
  return some part

/-- The part of an error that fulfils a condition, and the rest; `fuel` bounds how deep groups lie
inside each other. -/
def splitError (holds : Nat → Native Bool) : Nat → Nat → Native (Option Nat × Option Nat)
  | 0, error => return (none, some error)
  | fuel + 1, error => do
    if ← holds error then return (some error, none)
    match (← Native.heap).groupMembers? error with
    | none => return (none, some error)
    | some members =>
      let parts ← members.mapM (splitError holds fuel)
      let fits ← subgroupOf error (parts.filterMap (·.1))
      let others ← subgroupOf error (parts.filterMap (·.2))
      return (fits, others)

/-- What errors have to fulfil to be in a part: to be of a kind, or to be accepted by a function. -/
def conditionOf (v : Value) : Native (Nat → Native Bool) := do
  let h ← Native.heap
  let ofKinds (kinds : List Value) : Nat → Native Bool := fun error => do
    let h ← Native.heap
    return kinds.any (h.inherits (h.typeOf (.ref error)))
  let isErrorKind (kind : Value) : Bool := h.isKind kind && h.isErrorKind kind
  match v with
  | .tuple kinds =>
    if kinds.all isErrorKind then return ofKinds kinds else refuse
  | _ =>
    if isErrorKind v then return ofKinds [v]
    else if Heap.sameKind (h.typeOf v) (.type "function") then
      return fun error => do truthOf (← Native.askCall v [.ref error])
    else refuse
where
  /-- The complaint about something that is no condition. -/
  refuse : Native (Nat → Native Bool) :=
    Native.typeError "expected a function, exception type or tuple of exception types"

/-- The value of an error that may be there. -/
def partValue (part : Option Nat) : Value := (part.map Value.ref).getD .none

/-- A method of a group. -/
def groupMethod (error : Nat) (name : String) (arg : Value) : Native Value := do
  match name with
  | "derive" =>
    let message := (((← Native.heap).error? error).bind (·.details.get? "message")).getD (.text "")
    return .ref (← newGroup message arg)
  | _ =>
    let (fits, others) ← splitError (← conditionOf arg) (← Native.room) error
    return if name == "split" then .tuple [partValue fits, partValue others] else partValue fits

/-! ## Handling groups -/

/-- The part of an error that a handler of groups takes, as a group, and the rest. -/
def splitForHandler (error : Option Nat) (kind : Value) : Native Value := do
  let h ← Native.heap
  let kinds := match kind with
    | .tuple kinds => kinds
    | _ => [kind]
  if ! kinds.all fun k => h.isKind k && h.isErrorKind k then
    Native.typeError "catching classes that do not inherit from BaseException is not allowed"
  if kinds.any fun k => h.inherits k groupKind then
    Native.typeError "catching ExceptionGroup with except* is not allowed. Use except instead."
  match error with
  | none => return .none
  | some error =>
    if kinds.any (h.inherits (h.typeOf (.ref error))) && (h.groupMembers? error).isNone then
      return .tuple [.ref (← newGroup (.text "") (.tuple [.ref error])), .none]
    let (fits, others) ← splitError (← conditionOf kind) (← Native.room) error
    return .tuple [partValue fits, partValue others]

/-- Whether an error has the history of another one. -/
def Heap.sharesHistory (h : Heap) (error other : Nat) : Bool :=
  match h.error? error, h.error? other with
  | some e, some f =>
    let notes (e : Error) : Value := (e.attributes.get? "__notes__").getD .none
    e.frames == f.frames && e.cause == f.cause && e.context == f.context
      && identical (notes e) (notes f)
  | _, _ => false

/-- The errors in a group that are no groups; `fuel` bounds how deep groups lie inside each
other. -/
def Heap.leavesOf (h : Heap) : Nat → Nat → List Nat
  | 0, _ => []
  | fuel + 1, error =>
    match h.groupMembers? error with
    | some members => members.flatMap (h.leavesOf fuel)
    | none => [error]

/-- What is raised once all handlers of groups were tried on an error: what they have raised, with
the parts that go on unchanged put together again. -/
def joinErrors (error : Nat) (raised : List Nat) : Native Value := do
  let h ← Native.heap
  match h.groupMembers? error with
  | none => return partValue raised.head?
  | some _ =>
    let again := raised.filter (h.sharesHistory error)
    let leaves := again.flatMap (h.leavesOf (← Native.room))
    let (unchanged, _) ← splitError (fun e => return leaves.contains e) (← Native.room) error
    match raised.filter (fun e => ! h.sharesHistory error e) ++ unchanged.toList with
    | [] => return .none
    | [single] => return .ref single
    | all =>
      let row ← Native.askObject (.list (all.map Value.ref).toArray)
      return .ref (← newGroup (.text "") (.ref row))

end SnippetRunner.Evaluation
