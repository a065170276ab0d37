/-!
# The timer agenda

Callbacks that wait for their moment, on a clock that only waiting moves. A one-shot timer is one
event; a repeating timer is an interval whose next event is entered each time it fires. The queue
of events, the table from handles to events and the table of intervals are kept apart: the queue
decides what is next, the tables what can still be cancelled.

The agenda is generic in the type `τ` of times, so that it runs on floats and can be reasoned
about on exact numbers, and in the type `κ` of callbacks, which it never looks into.

Draining is the loop that runs callbacks until none is left. It waits for the next event only as
far as the deadline allows, and asks again after each callback. Callbacks are run by a function
that sees and changes the agenda and a memory of its own.
-/

namespace SnippetRunner.Timer

/-- What an event does when it is due. -/
inductive Action (κ : Type) where
  /-- Run a callback and be done. -/
  | once (callback : κ)
  /-- Run the callback of the handle's interval and enter the next event. -/
  | again

/-- A callback's place on the clock. Events of one moment run in the order of scheduling. -/
structure Event (τ κ : Type) where
  due : τ
  order : Nat
  handle : Nat
  action : Action κ

/-- A repeating timer: its period and its callback. -/
structure Interval (τ κ : Type) where
  period : τ
  callback : κ

/-- The agenda of one run. -/
structure Agenda (τ κ : Type) where
  now : τ
  queue : List (Event τ κ) := []
  events : List (Nat × Event τ κ) := []
  intervals : List (Nat × Interval τ κ) := []
  nextHandle : Nat := 1
  nextOrder : Nat := 0
  deadline : Option τ := none
  closed : Bool := false

/-! ## Tables from handles -/

/-- The entry of a handle. -/
def find? {α : Type} (table : List (Nat × α)) (handle : Nat) : Option α :=
  (table.find? fun entry => entry.1 == handle).map (·.2)

/-- A table without a handle. -/
def erase {α : Type} (table : List (Nat × α)) (handle : Nat) : List (Nat × α) :=
  table.filter fun entry => entry.1 != handle

/-- A table with a handle's entry replaced or added. -/
def put {α : Type} (table : List (Nat × α)) (handle : Nat) (entry : α) : List (Nat × α) :=
  erase table handle ++ [(handle, entry)]

/-! ## Requests -/

/-- Why a delay is no time span. -/
inductive DelayFault where
  | unreadable (quoted : String)
  | notNumeric (typeName : String)
  | notANumber
  | tooLarge
  deriving Repr, DecidableEq

/-- Why a timer is not registered. -/
inductive Refusal where
  | closed
  | notCallable (typeName : String)
  | badDelay (fault : DelayFault)
  deriving Repr, DecidableEq

/-- What a caller asks to have run. -/
inductive Target (κ : Type) where
  | callable (callback : κ)
  | other (typeName : String)

/-- What a caller gives as the handle to cancel: a number that may be a handle, something that
is none, or something that cannot be looked up at all. -/
inductive Key where
  | handle (n : Nat)
  | foreign
  | unhashable (typeName : String)
  deriving Repr, DecidableEq

/-- A lookup with a key that cannot be looked up. -/
structure BadKey where
  typeName : String
  deriving Repr, DecidableEq

variable {τ κ : Type}

namespace Agenda

/-- An agenda with nothing on it. -/
def empty (now : τ) : Agenda τ κ := { now }

/-- The number of timers that are waiting. -/
def pending (a : Agenda τ κ) : Nat := a.events.length

/-- Enters an event for a handle after a time span. -/
def enter [Add τ] (a : Agenda τ κ) (delay : τ) (handle : Nat) (action : Action κ) :
    Agenda τ κ :=
  let event : Event τ κ := ⟨a.now + delay, a.nextOrder, handle, action⟩
  { a with
    queue := a.queue ++ [event]
    events := put a.events handle event
    nextOrder := a.nextOrder + 1 }

/-- A time span is never negative. -/
def clamp [LT τ] [DecidableLT τ] [Zero τ] (delay : τ) : τ := if delay < 0 then 0 else delay

/-- Whether a registration is let in: the agenda is open and the target can be called. -/
def accept (a : Agenda τ κ) : Target κ → Except Refusal κ
  | .callable callback => if a.closed then .error .closed else .ok callback
  | .other typeName => .error (if a.closed then .closed else .notCallable typeName)

section Registration

variable [Add τ] [LT τ] [DecidableLT τ] [Zero τ]

/-- Registers a callback to run once. A delay that is refused has used up its handle. -/
def callLater (a : Agenda τ κ) (delay : Except DelayFault τ) (target : Target κ) :
    Except Refusal Nat × Agenda τ κ :=
  match a.accept target with
  | .error refusal => (.error refusal, a)
  | .ok callback =>
    let handle := a.nextHandle
    let a := { a with nextHandle := handle + 1 }
    match delay with
    | .error fault => (.error (.badDelay fault), a)
    | .ok delay => (.ok handle, a.enter (clamp delay) handle (.once callback))

/-- Registers a callback to run again and again. -/
def callEvery (a : Agenda τ κ) (period : Except DelayFault τ) (target : Target κ) :
    Except Refusal Nat × Agenda τ κ :=
  match a.accept target with
  | .error refusal => (.error refusal, a)
  | .ok callback =>
    let handle := a.nextHandle
    let a := { a with nextHandle := handle + 1 }
    match period with
    | .error fault => (.error (.badDelay fault), a)
    | .ok period =>
      let period := clamp period
      let a := { a with intervals := put a.intervals handle ⟨period, callback⟩ }
      (.ok handle, a.enter period handle .again)

end Registration

/-! ## Cancelling -/

/-- Takes a handle's event off the agenda; without one, nothing happens. -/
def removeEvent (a : Agenda τ κ) (handle : Nat) : Agenda τ κ :=
  match find? a.events handle with
  | none => a
  | some event =>
    { a with
      events := erase a.events handle
      queue := a.queue.filter fun other => other.order != event.order }

/-- Looks a key up in a table that is not empty: only there it must be one. -/
def checkKey {α : Type} (table : List (Nat × α)) : Key → Except BadKey (Option Nat)
  | .handle n => .ok (some n)
  | .foreign => .ok none
  | .unhashable typeName => if table.isEmpty then .ok none else .error ⟨typeName⟩

/-- Cancels the next event of a key. -/
def cancelCall (a : Agenda τ κ) (key : Key) : Except BadKey Unit × Agenda τ κ :=
  match checkKey a.events key with
  | .error bad => (.error bad, a)
  | .ok none => (.ok (), a)
  | .ok (some handle) => (.ok (), a.removeEvent handle)

/-- Cancels the interval and the next event of a key. -/
def cancelEvery (a : Agenda τ κ) (key : Key) : Except BadKey Unit × Agenda τ κ :=
  match checkKey a.intervals key with
  | .error bad => (.error bad, a)
  | .ok none => a.cancelCall key
  | .ok (some handle) =>
    { a with intervals := erase a.intervals handle }.cancelCall key

/-- Cancels everything and lets nothing new in. -/
def close (a : Agenda τ κ) : Agenda τ κ :=
  let handles := a.events.map (·.1)
  handles.foldl removeEvent { a with closed := true, intervals := [] }

/-! ## Turns of the drain loop -/

section Turns

variable [LT τ] [DecidableLT τ]

/-- Whether an event comes before another: by due time, then by scheduling order. -/
def before (e f : Event τ κ) : Bool :=
  if e.due < f.due then true
  else if f.due < e.due then false
  else decide (e.order < f.order)

/-- The first event of a queue. -/
def earliest? : List (Event τ κ) → Option (Event τ κ)
  | [] => none
  | e :: rest =>
    match earliest? rest with
    | none => some e
    | some f => if before f e then some f else some e

/-- Whether waiting for a time span would pass the deadline. -/
def passesDeadline [Add τ] (a : Agenda τ κ) (span : τ) : Bool :=
  match a.deadline with
  | none => false
  | some deadline => decide (deadline < a.now + span)

/-- Whether the clock itself has passed the deadline. -/
def isLate [Add τ] [Zero τ] (a : Agenda τ κ) : Bool := a.passesDeadline 0

/-- Takes an event off the queue and prepares its callback: a one-shot timer is forgotten, a
repeating one enters its next event first, so that its callback can cancel it. -/
def start [Add τ] (a : Agenda τ κ) (event : Event τ κ) : Option κ × Agenda τ κ :=
  let a := { a with queue := a.queue.filter fun other => other.order != event.order }
  match event.action with
  | .once callback => (some callback, { a with events := erase a.events event.handle })
  | .again =>
    match find? a.intervals event.handle with
    | none => (none, a)
    | some interval => (some interval.callback, a.enter interval.period event.handle .again)

/-- What the drain loop does next. -/
inductive Turn (τ κ : Type) where
  /-- Nothing is waiting. -/
  | idle
  /-- The next event is due after the deadline; it stays. -/
  | late
  /-- The clock moves to the next event's moment. -/
  | wait (moment : τ)
  /-- The next event is due. -/
  | fire (event : Event τ κ)

/-- The next turn of the drain loop. -/
def turn [Add τ] [Sub τ] (a : Agenda τ κ) : Turn τ κ :=
  match earliest? a.queue with
  | none => .idle
  | some event =>
    if a.now < event.due then
      let span := event.due - a.now
      if a.passesDeadline span then .late else .wait (a.now + span)
    else .fire event

end Turns

end Agenda

/-- How a stretch of work ends. -/
inductive Ending (ε : Type) where
  | done
  /-- The deadline was passed, or would be. -/
  | late
  /-- An error went out of it. -/
  | failed (error : ε)
  /-- It does not end by itself. -/
  | endless
  deriving Repr, DecidableEq

variable {τ κ ε μ : Type} [Add τ] [Sub τ] [LT τ] [DecidableLT τ] [Zero τ]

/-- Runs waiting callbacks until none is left, the deadline stops the loop or a callback fails.
The first argument bounds the number of turns. -/
def drainTurns (invoke : κ → Agenda τ κ → μ → Ending ε × Agenda τ κ × μ) :
    Nat → Agenda τ κ → μ → Ending ε × Agenda τ κ × μ
  | 0, a, m => (.endless, a, m)
  | turns + 1, a, m =>
    match a.turn with
    | .idle => (.done, a, m)
    | .late => (.late, a, m)
    | .wait moment => drainTurns invoke turns { a with now := moment } m
    | .fire event =>
      match a.start event with
      | (none, a) => if a.isLate then (.late, a, m) else drainTurns invoke turns a m
      | (some callback, a) =>
        match invoke callback a m with
        | (.done, a, m) => if a.isLate then (.late, a, m) else drainTurns invoke turns a m
        | ending => ending

/-- Sets the deadline and runs waiting callbacks. -/
def drain (invoke : κ → Agenda τ κ → μ → Ending ε × Agenda τ κ × μ) (turns : Nat)
    (deadline : Option τ) (a : Agenda τ κ) (m : μ) : Ending ε × Agenda τ κ × μ :=
  drainTurns invoke turns { a with deadline } m

end SnippetRunner.Timer
