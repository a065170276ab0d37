import SnippetRunner.Evaluation.Object

/-!
# Operations that ask questions

Most operations finish by themselves. Some need a function of the snippet to be called, an item
of a generator, or an effect. Such an operation stops with a question; once the answer is there
it is performed again from its start, with all answers so far. So an operation changes objects
only after its last question, or else marks a point to which they return when it asks.
-/

namespace SnippetRunner.Evaluation

/-- How a generator goes on. -/
inductive Resumption where
  | send (v : Value)
  | throw (error : Nat)

/-- What an operation needs from elsewhere. -/
inductive Question where
  | call (callee : Value) (args : List Value) (keywords : Table)
  /-- Runs a function whose names are bound. -/
  | enter (function : Function) (names : Table)
  /-- The next item of a generator as a tuple of one, or what it ended with as the second of
  two. -/
  | resume (generator : Nat) (how : Resumption)
  /-- All items of an iterator, as a tuple. -/
  | collect (iterator : Value)
  /-- What a walk through an iterator comes to. -/
  | walk (visitor : Visitor) (iterator state : Value)
  /-- An object that stays. -/
  | allocate (object : Object)
  | request (request : Request)
  /-- Loads a module of which the text is known. This has no answer: the operation is performed
  again once the module is there. -/
  | load (name text : String)

/-- Why an operation does not finish. -/
inductive Halt where
  /-- An error; a fresh one has not been raised before. -/
  | fail (error : Nat) (fresh : Bool)
  | ask (question : Question)
  /-- It has more to do than any deadline leaves time for. -/
  | endless

/-- What an operation works on. -/
structure Scratch where
  heap : Heap
  answers : List Answer
  /-- How many blocks are being run inside each other. -/
  depth : Nat := 0
  /-- The objects as they are after a question, if that is not how they are now. -/
  marked : Option Heap := none

/-- How many blocks may be run inside each other, and values looked through inside each other. -/
def depthLimit : Nat := 1000

/-- An operation. -/
abbrev Native := EStateM Halt Scratch

namespace Native

/-- The objects. -/
def heap : Native Heap := return (← get).heap

/-- Changes the objects. -/
def modifyHeap (f : Heap → Heap) : Native Unit := modify fun s => { s with heap := f s.heap }

/-- Puts a new object into the heap. -/
def allocate (o : Object) : Native Value := do
  let s ← get
  let (address, heap) := s.heap.allocate o
  set { s with heap }
  return .ref address

/-- Marks the point to which the objects return when the operation asks. -/
def mark : Native Unit := modify fun s =>
  { s with marked := s.marked.orElse fun _ => some s.heap }

/-- Does something only when the operation comes to this point for the first time: not when it is
performed again with answers to later questions. -/
def once (body : Native Unit) : Native Unit := do
  if (← get).answers.isEmpty then body

/-- Raises a new error that tells more than its arguments. -/
def failAbout {α : Type} (kind : String) (args : List Value) (details : Table) : Native α := do
  let s ← get
  let (address, heap) := s.heap.allocate (.error { kind := .type kind, args, details })
  set { s with heap }
  throw (.fail address true)

/-- Raises a new error. -/
def failWith {α : Type} (kind : String) (args : List Value) : Native α := failAbout kind args []

/-- Raises a new error with a message. -/
def fail {α : Type} (kind message : String) : Native α := failWith kind [.text message]

/-- Raises a new type error. -/
def typeError {α : Type} (message : String) : Native α := fail "TypeError" message

/-- Raises a new value error. -/
def valueError {α : Type} (message : String) : Native α := fail "ValueError" message

/-- Raises the error for a problem. -/
def failProblem {α : Type} (p : Problem) : Native α := fail p.kind p.message

/-- What is called is known by name only. -/
def unavailable {α : Type} (name : String) : Native α := fail "NotImplementedError" name

/-- How many values may still be looked through inside each other. -/
def room : Native Nat := return depthLimit - (← get).depth

/-- The error of what is nested too deeply. -/
def tooDeep {α : Type} (what : String) : Native α :=
  fail "RecursionError" s!"maximum recursion depth exceeded{what}"

/-- Gives up an operation that would not end before any deadline. -/
def endless {α : Type} : Native α := throw .endless

/-- Asks a question. -/
def ask (q : Question) : Native Answer := do
  let s ← get
  match s.answers with
  | answer :: rest =>
    set { s with answers := rest }
    return answer
  | [] => throw (.ask q)

/-- Asks a question that is answered with a value or an error. -/
def tryAsk (q : Question) : Native (Except Nat Value) := do
  match ← ask q with
  | .value v => return .ok v
  | .raised error => return .error error
  | .effect _ => return .ok .none

/-- Asks a question; an error in it is one of the operation. -/
def askValue (q : Question) : Native Value := do
  match ← tryAsk q with
  | .ok v => return v
  | .error error => throw (.fail error false)

/-- Asks for a function to be called. -/
def askCall (callee : Value) (args : List Value) : Native Value := askValue (.call callee args [])

/-- Asks for an object that stays. -/
def askObject (o : Object) : Native Nat := do
  match ← askValue (.allocate o) with
  | .ref address => return address
  | _ => return 0

/-- Goes on once a module is loaded. -/
def afterLoading {α : Type} (name text : String) : Native α := throw (.ask (.load name text))

/-- Asks for a request to be performed. -/
def askRequest (r : Request) : Native EffectReply := do
  match ← ask (.request r) with
  | .effect reply => return reply
  | _ => return .nothing

end Native

end SnippetRunner.Evaluation
