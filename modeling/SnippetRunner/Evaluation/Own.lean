import SnippetRunner.Evaluation.Calling
import SnippetRunner.Evaluation.Conversion
import SnippetRunner.Evaluation.Module
import SnippetRunner.Timer.Delay

/-!
# The own bindings

What `print`, the log, the timer functions and the import guard do when a snippet calls them.
Their errors have gone through a frame of the host.
-/

namespace SnippetRunner.Evaluation

open SnippetRunner.Capture SnippetRunner.Timer

/-- Runs a part of the host: its errors have gone through its frame. -/
def inHost {α : Type} (name : String) (body : Native α) : Native α :=
  try body catch
    | .fail error fresh => do
      Native.modifyHeap fun h => h.mapError error fun e =>
        { e with frames := Fault.Frame.outside name :: e.frames }
      throw (.fail error fresh)
    | halt => throw halt

/-- The error of a request that was turned down. -/
def replyValue : EffectReply → Native Value
  | .nothing => return .none
  | .handle n => return .int n
  | .noRoom room => Native.failProblem room.problem
  | .refused refusal => Native.failProblem refusal.problem
  | .badKey bad => Native.failProblem bad.problem

/-! ## Output -/

/-- What a value is as a separator. -/
def joinerOf (v : Value) : Native Joiner := do
  match v, (← Native.heap).core v with
  | .none, _ => return .standard
  | _, .text s => return .text s
  | _, .bytes bs => return .bytes bs
  | _, _ => return .other ((← Native.heap).typeName v)

/-- Writes a value into the buffer. -/
def writeOut (v : Value) : Native Value := do
  match (← Native.heap).core v with
  | .text s => replyValue (← Native.askRequest (.write (.text s)))
  | .bytes bs => replyValue (← Native.askRequest (.write (.bytes bs)))
  | _ =>
    let _ ← lengthOf v
    Native.unavailable "print"

/-- The texts of values joined by a separator, which may be any value that can join. -/
def joinedBy (separator : Value) (args : List Value) : Native Value := do
  match ← joinerOf separator with
  | .other _ =>
    let join ← memberOf separator "join"
    let source ← Native.askObject (.iterator (.items "tuple_iterator" args))
    let texts ← Native.askObject (.iterator (.map (.type "str") [.ref source]))
    Native.askCall join [.ref texts]
  | joiner =>
    let texts ← args.mapM textOf
    match joined texts joiner with
    | .ok (.text s) => return .text s
    | .ok (.bytes bs) => return .bytes bs
    | .error fault => Native.failProblem fault.problem

/-- Prints values. -/
def printValues (args : List Value) (separator terminator : Value) : Native Value := do
  let row ← joinedBy separator args
  let last := match terminator with
    | .none => .text "\n"
    | v => v
  writeOut (← binary .add false row last)

/-- What `print` accepts. -/
def printSignature : Signature :=
  { owner := "_make_print.<locals>.capture_print()", rest := some "args"
    keywordOnly := ["sep", "end", "file", "flush"], optional := ["sep", "end", "file", "flush"] }

/-- What a level of the log accepts. -/
def logSignature (level : String) : Signature :=
  { owner := s!"_CaptureLog.{level}()", regular := ["self"], rest := some "args" }

/-- What the function that all levels of the log write with accepts. -/
def writeSignature : Signature :=
  { owner := "SandboxContextBuilder.build.<locals>.<lambda>()", regular := ["args"] }

/-! ## Timers -/

/-- The timer key that a value is. -/
def keyOf (v : Value) : Native Key := do
  let h ← Native.heap
  match h.unhashable? 50 v, (h.core v).toData? with
  | some typeName, _ => return .unhashable typeName
  | none, some d => return keyOfData d
  | none, none => return .foreign

/-- What is to be run, if a value can be called. -/
def targetOf (function : Value) (args : List Value) : Native (Target Callback) := do
  let h ← Native.heap
  if h.isCallable function then return .callable ⟨function, args⟩
  else return .other (h.typeName function)

/-- What a timer function accepts; the queue itself is its first argument. -/
def timerSignature (name : String) (regular : List String) (rest : Option String) : Signature :=
  { owner := s!"TimerQueue.{name}()", regular := "self" :: regular, rest }

/-- The value of a parameter. -/
def Passed.value (p : Passed) (id : String) : Value := (p.names.get? id).getD .none

/-- The time span that a value gives as a delay, or the error of looking for one. -/
def delayOf (v : Value) : Native (Except (Nat × Bool) Float) := do
  try
    let x ← floatOf v
    return .ok x
  catch
    | .fail error fresh => return .error (error, fresh)
    | halt => throw halt

/-- Registers a timer. A delay that cannot be had uses up a handle. -/
def register (name span : String) (args : List Value) (keywords : Table)
    (request : Except DelayFault Float → Target Callback → Request) : Native Value := do
  let signature := timerSignature name [span, "callback"] (some "args")
  let passed ← signature.passOrFail (.none :: args) keywords
  inHost name do
    match ← targetOf (passed.value "callback") passed.rest with
    | .other typeName =>
      replyValue (← Native.askRequest (request (.ok 0.0) (.other typeName)))
    | target =>
      match ← delayOf (passed.value span) with
      | .ok x => replyValue (← Native.askRequest (request (numberDelay x) target))
      | .error (error, fresh) =>
        match ← Native.askRequest (request (.error .notANumber) target) with
        | .refused (.badDelay _) => throw (.fail error fresh)
        | reply => replyValue reply

/-- Cancels a timer. -/
def cancel (name : String) (args : List Value) (keywords : Table) (request : Key → Request) :
    Native Value := do
  let signature := timerSignature name ["handle"] none
  let passed ← signature.passOrFail (.none :: args) keywords
  inHost name do
    replyValue (← Native.askRequest (request (← keyOf (passed.value "handle"))))

/-! ## Imports -/

/-- What the import guard accepts. -/
def importSignature : Signature :=
  { owner := "_make_import.<locals>.guarded_import()"
    regular := ["name", "globals", "locals", "fromlist", "level"]
    optional := ["globals", "locals", "fromlist", "level"] }

/-- Imports a module by a call. -/
def callImport (allowed : List String) (args : List Value) (keywords : Table) : Native Value := do
  let passed ← importSignature.passOrFail args keywords
  inHost "guarded_import" do
    let members ← truthOf (passed.value "fromlist")
    match passed.value "name" with
    | .text name =>
      let named ← if ! members || (Sandbox.membersOf? name).isNone then pure []
        else (← itemsOf (passed.value "fromlist")).mapM fun member => do
          match member with
          | .text s => return s
          | _ =>
            Native.typeError
              s!"Item in ``from list'' must be str, not {(← Native.heap).typeName member}"
      importThrough allowed name ((passed.value "level").int?.getD 0) members named
    | v =>
      let typeName := (← Native.heap).typeName v
      Native.fail "AttributeError" s!"'{typeName}' object has no attribute 'partition'"

/-- Calls one of the own bindings. -/
def callOwn (binding : OwnBinding) (args : List Value) (keywords : Table) : Native Value := do
  match binding with
  | .print =>
    let passed ← printSignature.passOrFail args keywords
    inHost "capture_print" (printValues args (passed.value "sep") (passed.value "end"))
  | .logLevel level =>
    let _ ← (logSignature level).passOrFail (.none :: args) keywords
    inHost level (printValues args .none .none)
  | .log => Native.typeError "'_CaptureLog' object is not callable"
  | .logWrite =>
    let passed ← writeSignature.passOrFail args keywords
    inHost "<lambda>" do
      let row := passed.value "args"
      if ! (← Native.heap).isIterable row then
        Native.typeError ((OwnBinding.print.fullName?.getD "") ++ "() argument after * must be an "
          ++ s!"iterable, not {(← Native.heap).typeName row}")
      printValues (← itemsOf row) .none .none
  | .callLater => register "call_later" "delay" args keywords .callLater
  | .callEvery => register "call_every" "interval" args keywords .callEvery
  | .cancelCall => cancel "cancel_call" args keywords .cancelCall
  | .cancelEvery => cancel "cancel_every" args keywords .cancelEvery
  | .importer allowed => callImport allowed args keywords

end SnippetRunner.Evaluation
