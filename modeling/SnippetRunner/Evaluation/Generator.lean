import SnippetRunner.Evaluation.Member

/-!
# Generators and waiting

What can be done with a generator beside taking its next item: a value or an error is sent to the
place where it waits, or it is ended early. An iterator of another kind that stands in its place
is asked for a method of the same name.

Something is waited for through an iterator: what it hands out goes to whoever let the wait go on,
and what it ends with is the value. So it is with the items of an asynchronous generator.
-/

namespace SnippetRunner.Evaluation

/-- The address of a generator, or of what is waited for through an iterator. -/
def Heap.generator? (h : Heap) : Value → Option Nat
  | .ref address =>
    match h.get? address with
    | some (.generator _ _ _) => some address
    | some (.iterator (.waiting coroutine)) => some coroutine
    | _ => none
  | _ => none

/-- Sends a value to a generator. -/
def sendTo (address : Nat) (v : Value) : Native Taken := do
  let fresh := match (← Native.heap).get? address with
    | some (.generator kind _ (.waiting _ _ _ false _)) => some kind
    | _ => none
  match fresh, v with
  | some _, .none | none, _ =>
    return .ofAnswer (← Native.askValue (.resume address (.send v)))
  | some kind, _ =>
    Native.typeError s!"can't send non-None value to a just-started {kind.phrase}"

/-- Raises an error in a generator. -/
def raiseIn (address error : Nat) : Native Taken := do
  return .ofAnswer (← Native.askValue (.resume address (.throw error)))

/-- The kind of error by which a generator is ended. -/
def exitKind : Value := .type "GeneratorExit"

/-- Ends a generator early: an error is raised in it that it must not hold back. -/
def closeGenerator (address : Nat) : Native Unit := do
  let exit ← Native.askObject (.error { kind := exitKind, args := [] })
  match ← Native.tryAsk (.resume address (.throw exit)) with
  | .ok answer =>
    match Taken.ofAnswer answer with
    | .item _ =>
      let kind := match (← Native.heap).get? address with
        | some (.generator kind _ _) => kind
        | _ => .generator
      Native.fail "RuntimeError" s!"{kind.phrase} ignored GeneratorExit"
    | .ended _ _ => return
  | .error error =>
    let h ← Native.heap
    let kind := ((h.error? error).map (·.kind)).getD .none
    if h.endsIteration error || h.inherits kind exitKind then return
    else throw (.fail error false)

/-- Ends a generator that nothing refers to; nobody is told of its errors. -/
def discardGenerator (address : Nat) : Native Unit :=
  try closeGenerator address catch
    | .fail _ _ => return
    | halt => throw halt

/-- The error that the arguments of `throw` stand for. -/
def thrownError (args : List Value) : Native Nat := do
  let h ← Native.heap
  let refuse (v : Value) : Native Nat := do
    Native.typeError ("exceptions must be classes or instances deriving from BaseException, " ++
      s!"not {(← Native.heap).typeName v}")
  match args with
  | [] => Native.typeError "throw expected at least 1 argument, got 0"
  | kind :: rest =>
    let given := rest.headD .none
    if h.isKind kind then
      if ! h.isErrorKind kind then refuse kind
      else
        let ready := match given with
          | .ref address =>
            match h.error? address with
            | some e => if h.inherits e.kind kind then some address else none
            | none => none
          | _ => none
        match ready with
        | some address => return address
        | none =>
          let args := match given with
            | .none => []
            | .tuple args => args
            | v => [v]
          match ← Native.askValue (.call kind args []) with
          | .ref address => return address
          | v => refuse v
    else match kind with
      | .ref address =>
        if (h.error? address).isNone then refuse kind
        else match given with
          | .none => return address
          | _ => Native.typeError "instance exception may not have a separate value"
      | _ => refuse kind

/-- A method of a generator. -/
def generatorMethod (address : Nat) (name : String) (args : List Value) : Native Value := do
  match name, args with
  | "send", [v] => (← sendTo address v).orFail
  | "throw", args => (← raiseIn address (← thrownError args)).orFail
  | _, _ =>
    closeGenerator address
    return .none

/-! ## Delegation -/

/-- Gives a step of an asynchronous generator a value to send. -/
def sendToStep (address : Nat) (v : Value) : Native Unit := do
  match (← Native.heap).get? address, v with
  | _, .none => return
  | some (.iterator (.asyncStep name generator _ error ends started finished)), v =>
    setIterator address (.asyncStep name generator v error ends started finished)
  | _, _ => return

/-- Gives a step of an asynchronous generator an error to raise. -/
def raiseInStep (address error : Nat) : Native Unit := do
  match (← Native.heap).get? address with
  | some (.iterator (.asyncStep name generator sent _ ends _ finished)) =>
    setIterator address (.asyncStep name generator sent (some error) ends false finished)
  | _ => return

/-- The address of a step of an asynchronous generator. -/
def Heap.step? (h : Heap) : Value → Option Nat
  | .ref address =>
    match h.get? address with
    | some (.iterator (.asyncStep _ _ _ _ _ _ _)) => some address
    | _ => none
  | _ => none

/-- Sends a value to an iterator that stands in for a generator. -/
def sendThrough (v sent : Value) : Native Taken := do
  let h ← Native.heap
  match h.generator? v, h.step? v, sent with
  | some address, _, _ => sendTo address sent
  | none, some address, _ => do
    sendToStep address sent
    nextOf v
  | none, none, .none => nextOf v
  | none, none, _ => takenFrom (← Native.tryAsk (.call (← memberOf v "send") [sent] []))

/-- Raises an error in an iterator that stands in for a generator; one that takes no errors lets it
through. -/
def raiseThrough (v : Value) (error : Nat) : Native Taken := do
  let h ← Native.heap
  match h.generator? v, h.step? v with
  | some address, _ => raiseIn address error
  | none, some address => do
    raiseInStep address error
    nextOf v
  | none, none =>
    match ← memberOf? v "throw" with
    | some method => takenFrom (← Native.tryAsk (.call method [.ref error] []))
    | none => throw (.fail error false)

/-- Ends an iterator that stands in for a generator. -/
def closeThrough (v : Value) : Native Unit := do
  match (← Native.heap).generator? v with
  | some address => closeGenerator address
  | none =>
    match ← memberOf? v "close" with
    | some method =>
      let _ ← Native.askCall method []
      return
    | none => return

/-- Something that suspends itself, of any kind. -/
def Heap.suspension? (h : Heap) : Value → Option (Nat × Suspension)
  | .ref address =>
    match h.get? address with
    | some (.generator kind _ _) => some (address, kind)
    | _ => none
  | _ => none

/-- The complaint about something that cannot be waited for. -/
def AwaitRole.complaint (kind : String) : AwaitRole → String
  | .expression => s!"object {kind} can't be used in 'await' expression"
  | .entering =>
    s!"'async with' received an object from __aenter__ that does not implement __await__: {kind}"
  | .exiting =>
    s!"'async with' received an object from __aexit__ that does not implement __await__: {kind}"

/-- The iterator by which something is waited for. -/
def awaitableOf (role : AwaitRole) (v : Value) : Native Value := do
  let h ← Native.heap
  match h.suspension? v, h.step? v, h.special? v "__await__" with
  | some (_, .coroutine), _, _ | _, some _, _ => return v
  | _, _, some method =>
    let iterator ← askMethod v method []
    let h ← Native.heap
    match h.suspension? iterator with
    | some (_, .coroutine) => Native.typeError "__await__() returned a coroutine"
    | _ =>
      if h.isIterator iterator then return iterator
      else Native.typeError s!"__await__() returned non-iterator of type '{h.typeName iterator}'"
  | _, _, none => Native.typeError (role.complaint (h.typeName v))

/-- A step of an asynchronous generator. -/
def newStep (name : String) (generator : Nat) (sent : Value) (error : Option Nat) (ends : Bool) :
    Native Value :=
  Native.allocate (.iterator (.asyncStep name generator sent error ends false false))

/-- The asynchronous iterator of a value. -/
def asyncIteratorOf (v : Value) : Native Value := do
  let h ← Native.heap
  match h.suspension? v, h.special? v "__aiter__" with
  | some (_, .asyncGenerator), _ => return v
  | _, some method =>
    let iterator ← askMethod v method []
    let h ← Native.heap
    match h.suspension? iterator, h.special? iterator "__anext__" with
    | some (_, .asyncGenerator), _ | _, some _ => return iterator
    | _, none =>
      Native.typeError ("'async for' received an object from __aiter__ that does not implement "
        ++ s!"__anext__: {h.typeName iterator}")
  | _, none =>
    Native.typeError s!"'async for' requires an object with __aiter__ method, got {h.typeName v}"

/-- Raises an error in place of another one, which is its cause. -/
def failInstead {α : Type} (kind message : String) (cause : Nat) : Native α := do
  try Native.fail kind message catch
    | .fail error fresh => do
      Native.modifyHeap fun h => h.mapError error fun e =>
        { e with cause := some cause, context := some cause, suppress := true }
      throw (.fail error fresh)
    | halt => throw halt

/-- The iterator by which the next item of an asynchronous iterator is waited for. -/
def asyncNextOf (v : Value) : Native Value := do
  let h ← Native.heap
  match h.suspension? v, h.special? v "__anext__" with
  | some (address, .asyncGenerator), _ =>
    newStep "async_generator_asend" address .none none false
  | _, some method =>
    let answer ← askMethod v method []
    try awaitableOf .expression answer catch
      | .fail error _ => do
        let kind := (← Native.heap).typeName answer
        failInstead "TypeError" s!"'async for' received an invalid object from __anext__: {kind}"
          error
      | halt => throw halt
  | _, none =>
    Native.typeError
      s!"'async for' requires an iterator with __anext__ method, got {h.typeName v}"

/-- A method of an asynchronous generator; all but the first one give a step. -/
def asyncGeneratorMethod (address : Nat) (name : String) (args : List Value) : Native Value := do
  match name, args with
  | "__aiter__", _ => return .ref address
  | "__anext__", _ => newStep "async_generator_asend" address .none none false
  | "asend", [v] => newStep "async_generator_asend" address v none false
  | "athrow", args => newStep "async_generator_athrow" address .none (some (← thrownError args)) false
  | _, _ =>
    let exit ← Native.askObject (.error { kind := exitKind, args := [] })
    newStep "async_generator_athrow" address .none (some exit) true

/-- A method of a step of an asynchronous generator. -/
def stepMethod (address : Nat) (name : String) (args : List Value) : Native Value := do
  match name, args with
  | "send", [v] =>
    sendToStep address v
    (← nextOf (.ref address)).orFail
  | "throw", args =>
    raiseInStep address (← thrownError args)
    (← nextOf (.ref address)).orFail
  | "close", _ =>
    match (← Native.heap).get? address with
    | some (.iterator (.asyncStep name generator sent error ends started _)) =>
      setIterator address (.asyncStep name generator sent error ends started true)
    | _ => pure ()
    return .none
  | _, _ => return .ref address

end SnippetRunner.Evaluation
