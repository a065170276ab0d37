import SnippetRunner.Run.Effect
import SnippetRunner.Timer.Agenda

/-!
# Routines: callbacks as programs over the agenda

An operation on the agenda as data, and a callback as a script of operations. Running a routine
performs its operations one after another; a nested drain runs the routines that are due meanwhile.
-/

namespace SnippetRunner.Timer

/-- An operation on the agenda. -/
inductive Op (τ κ : Type) where
  | callLater (delay : Except DelayFault τ) (target : Target κ)
  | callEvery (period : Except DelayFault τ) (target : Target κ)
  | cancelCall (key : Key)
  | cancelEvery (key : Key)
  | drain (deadline : Option τ)
  | close
  | advance (span : τ)

/-- The answer to an operation. -/
inductive Reply (ε : Type) where
  | handle (n : Nat)
  | nothing
  | refused (refusal : Refusal)
  | badKey (bad : BadKey)
  | stopped (ending : Ending ε)

variable {τ κ ε μ : Type} [Add τ] [Sub τ] [LT τ] [DecidableLT τ] [Zero τ]

/-- The answer to a registration. -/
def Reply.ofRegistration : Except Refusal Nat → Reply ε
  | .ok n => .handle n
  | .error refusal => .refused refusal

/-- The answer to a cancellation. -/
def Reply.ofCancel : Except BadKey Unit → Reply ε
  | .ok () => .nothing
  | .error bad => .badKey bad

/-- Performs one operation; draining is left to a function. -/
def Op.perform (drain : Option τ → Agenda τ κ → μ → Ending ε × Agenda τ κ × μ) :
    Op τ κ → Agenda τ κ × μ → Reply ε × Agenda τ κ × μ
  | .callLater delay target, (a, m) =>
    let (answer, a) := a.callLater delay target
    (.ofRegistration answer, a, m)
  | .callEvery period target, (a, m) =>
    let (answer, a) := a.callEvery period target
    (.ofRegistration answer, a, m)
  | .cancelCall key, (a, m) =>
    let (answer, a) := a.cancelCall key
    (.ofCancel answer, a, m)
  | .cancelEvery key, (a, m) =>
    let (answer, a) := a.cancelEvery key
    (.ofCancel answer, a, m)
  | .drain deadline, (a, m) =>
    match drain deadline a m with
    | (.done, a, m) => (.nothing, a, m)
    | (ending, a, m) => (.stopped ending, a, m)
  | .close, (a, m) => (.nothing, a.close, m)
  | .advance span, (a, m) => (.nothing, { a with now := a.now + span }, m)

/-- How callbacks behave: what is remembered when one starts, and the operations it performs. -/
structure Behaviour (τ κ ε μ : Type) where
  note : κ → Agenda τ κ → μ → μ
  script : κ → Agenda τ κ → μ → Script (Op τ κ) (Reply ε) (Ending ε)

/-- Runs a callback by its behaviour, with nested drains of at most `turns` turns. -/
def Behaviour.invoke (b : Behaviour τ κ ε μ) :
    Nat → κ → Agenda τ κ → μ → Ending ε × Agenda τ κ × μ
  | 0, _, a, m => (.endless, a, m)
  | turns + 1, callback, a, m =>
    let nested := fun deadline a m => drain (b.invoke turns) turns deadline a m
    let m := b.note callback a m
    match (b.script callback a m).run (Op.perform nested) (a, m) with
    | (ending, a, m) => (ending, a, m)

/-- Performs an operation from outside any callback. -/
def Behaviour.perform (b : Behaviour τ κ ε μ) (turns : Nat) (op : Op τ κ) (s : Agenda τ κ × μ) :
    Reply ε × Agenda τ κ × μ :=
  op.perform (fun deadline a m => drain (b.invoke turns) turns deadline a m) s

end SnippetRunner.Timer
