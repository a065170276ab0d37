import SnippetRunner.Capture.Print
import SnippetRunner.Timer.Agenda

/-!
# What a run asks of its surroundings

A script is work that asks for operations one after another and goes on with each answer. What
performs the operations is left open: one script can be run alone on a state, or step by step
beside others.

A snippet reaches outside itself in two ways only: it writes to its output buffer, and it enters
or cancels timers on its agenda. Both belong to the context of its run, with its names; a context
is made for a run and closed with it.
-/

namespace SnippetRunner

/-- Work that ends with a result, or asks for an operation and depends on the answer. -/
inductive Script (Op Reply α : Type) where
  | stop (result : α)
  | act (op : Op) (next : Reply → Script Op Reply α)

namespace Script

variable {Op Reply α β σ : Type}

/-- Goes on with the result of a script. -/
def bind : Script Op Reply α → (α → Script Op Reply β) → Script Op Reply β
  | .stop result, f => f result
  | .act op next, f => .act op fun reply => (next reply).bind f

instance : Monad (Script Op Reply) where
  pure := .stop
  bind := bind

/-- A script that asks for one operation. -/
def ask (op : Op) : Script Op Reply Reply := .act op .stop

/-- Runs a script on a state that performs its operations. -/
def run (perform : Op → σ → Reply × σ) : Script Op Reply α → σ → α × σ
  | .stop result, s => (result, s)
  | .act op next, s =>
    match perform op s with
    | (reply, s) => (next reply).run perform s

end Script

open SnippetRunner.Timer SnippetRunner.Capture

/-- A request of a running snippet; `τ` are times and `κ` callbacks. -/
inductive Effect (τ κ : Type) where
  | write (fragment : Fragment)
  | callLater (delay : Except DelayFault τ) (target : Target κ)
  | callEvery (period : Except DelayFault τ) (target : Target κ)
  | cancelCall (key : Key)
  | cancelEvery (key : Key)

/-- The answer to a request. -/
inductive EffectReply where
  | nothing
  | handle (n : Nat)
  | noRoom (room : FractionalRoom)
  | refused (refusal : Refusal)
  | badKey (bad : BadKey)
  deriving Repr, DecidableEq

/-- What a request acts on. -/
structure Surroundings (τ κ : Type) where
  buffer : Buffer
  agenda : Agenda τ κ

variable {τ κ : Type} [Add τ] [LT τ] [DecidableLT τ] [Zero τ]

/-- The answer to a registration. -/
def EffectReply.ofRegistration : Except Refusal Nat → EffectReply
  | .ok n => .handle n
  | .error refusal => .refused refusal

/-- The answer to a cancellation. -/
def EffectReply.ofCancel : Except BadKey Unit → EffectReply
  | .ok () => .nothing
  | .error bad => .badKey bad

/-- Performs a request. -/
def Effect.perform : Effect τ κ → Surroundings τ κ → EffectReply × Surroundings τ κ
  | .write fragment, s =>
    match s.buffer.append fragment with
    | .ok buffer => (.nothing, { s with buffer })
    | .error room => (.noRoom room, s)
  | .callLater delay target, s =>
    let (answer, agenda) := s.agenda.callLater delay target
    (.ofRegistration answer, { s with agenda })
  | .callEvery period target, s =>
    let (answer, agenda) := s.agenda.callEvery period target
    (.ofRegistration answer, { s with agenda })
  | .cancelCall key, s =>
    let (answer, agenda) := s.agenda.cancelCall key
    (.ofCancel answer, { s with agenda })
  | .cancelEvery key, s =>
    let (answer, agenda) := s.agenda.cancelEvery key
    (.ofCancel answer, { s with agenda })

/-- The context of one run. -/
structure Context (τ κ ν : Type) where
  names : ν
  surroundings : Surroundings τ κ
  /-- The names that a snippet finds at its start, apart from those of the machinery. -/
  capabilities : List String := []
  closed : Bool := false

namespace Context

variable {τ κ ν σ : Type}

/-- Closes a context: its timers are cancelled and its names are gone. -/
def close (c : Context τ κ ν) (clear : ν → σ → σ) (objects : σ) : Context τ κ ν × σ :=
  if c.closed then (c, objects)
  else
    let agenda := c.surroundings.agenda.close
    ({ c with surroundings := { c.surroundings with agenda }, closed := true },
      clear c.names objects)

end Context

end SnippetRunner
