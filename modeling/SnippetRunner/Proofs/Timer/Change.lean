import SnippetRunner.Proofs.Timer.Consistency
import SnippetRunner.Proofs.Timer.History
import SnippetRunner.Proofs.Timer.Timeline

/-!
# What one step changes

`Change` lists, for each thing that can happen to a consistent agenda, the agenda that it leaves,
in the primitive terms of `Proofs/Timer/Consistency`. `Happens.change` shows that the list is
complete, so that no later proof opens an operation again, and `Change.consistent` that every step
keeps the agenda consistent.

There is no case for an event that is dropped: in a consistent agenda none is.

From this list follow the two ways in which later modules reason:

* `drainTurns_rule`: what holds at the start of a drain and is kept by each of its turns holds until the
  loop stops, and the loop stops for one of a few reasons.
* `session_consistent`: the queue and the tables fit together at every point of a history that begins
  with an empty agenda, whatever the callbacks do and whenever they fail. `representation_invariant`
  says what that means, and what follows from it: the number of pending timers is the length of the
  queue, a cancellation finds the event that it is to take off the queue, no repeating event has lost
  its interval, and a registration that is refused changes nothing but the next handle.
-/

namespace SnippetRunner.Timer

open Agenda

section Changes

variable {τ κ ε α : Type}

/-- A registration, of either kind. -/
def Op.IsRegistration : Op τ κ → Prop
  | .callLater _ _ => True
  | .callEvery _ _ => True
  | _ => False

variable [Add τ] [Sub τ] [LT τ] [DecidableLT τ] [Zero τ] {a b : Agenda τ κ} {deed : Deed τ κ ε}

/-- What a deed leaves of a consistent agenda. -/
inductive Change (a : Agenda τ κ) : Deed τ κ ε → Agenda τ κ → Prop where
  /-- A registration was refused; a handle may have been used up. -/
  | refused {op : Op τ κ} {refusal : Refusal} {n : Nat} (registration : op.IsRegistration)
      (next : n = a.nextHandle ∨ n = a.nextHandle + 1) :
      Change a (.asked op (.refused refusal)) { a with nextHandle := n }
  | later {delay : τ} {callback : κ} (isOpen : a.closed = false) :
      Change a (.asked (.callLater (.ok delay) (.callable callback)) (.handle a.nextHandle))
        ({ a with nextHandle := a.nextHandle + 1 }.enter (clamp delay) a.nextHandle
          (.once callback))
  | every {period : τ} {callback : κ} (isOpen : a.closed = false) :
      Change a (.asked (.callEvery (.ok period) (.callable callback)) (.handle a.nextHandle))
        ({ a with
            nextHandle := a.nextHandle + 1
            intervals := put a.intervals a.nextHandle ⟨clamp period, callback⟩ }.enter
          (clamp period) a.nextHandle .again)
  | cancelled {handle : Nat} :
      Change a (.asked (.cancelCall (.handle handle)) .nothing) (a.removeEvent handle)
  | stopped {handle : Nat} :
      Change a (.asked (.cancelEvery (.handle handle)) .nothing)
        ({ a with intervals := erase a.intervals handle }.removeEvent handle)
  /-- Something that is no handle was to be cancelled. -/
  | unknown {op : Op τ κ} {reply : Reply ε} {key : Key} (foreign : ∀ handle, key ≠ .handle handle)
      (asks : op = .cancelCall key ∨ op = .cancelEvery key)
      (answer : reply = .nothing ∨ ∃ bad, reply = .badKey bad) :
      Change a (.asked op reply) a
  | closed :
      Change a (.asked .close .nothing)
        { a with closed := true, intervals := [], queue := [], events := [] }
  | advanced {span : τ} :
      Change a (.asked (.advance span) .nothing) { a with now := a.now + span }
  | began (deadline : Option τ) : Change a (.began deadline) { a with deadline }
  | waited {event : Event τ κ} (first : earliest? a.queue = some event)
      (early : a.now < event.due) :
      Change a .waited { a with now := a.now + (event.due - a.now) }
  | ranOnce {event : Event τ κ} {callback : κ} (first : earliest? a.queue = some event)
      (due : ¬ a.now < event.due) (action : event.action = .once callback) :
      Change a (.started event callback) (a.removeEvent event.handle)
  /-- A repeating timer enters its next event before its callback is started. -/
  | ranAgain {event : Event τ κ} {interval : Interval τ κ} (first : earliest? a.queue = some event)
      (due : ¬ a.now < event.due) (action : event.action = .again)
      (found : find? a.intervals event.handle = some interval) :
      Change a (.started event interval.callback)
        ((a.removeEvent event.handle).enter interval.period event.handle .again)

/-! ## The list is complete -/

omit [Add τ] [Sub τ] [LT τ] [DecidableLT τ] [Zero τ] in
lemma accept_eq_ok_iff {target : Target κ} {callback : κ} :
    a.accept target = .ok callback ↔ target = .callable callback ∧ a.closed = false := by
  cases target with
  | other typeName => simp [accept]
  | callable k => cases hclosed : a.closed <;> simp [accept, hclosed]

lemma callLater_change (delay : Except DelayFault τ) (target : Target κ) :
    Change a (.asked (.callLater delay target) (Reply.ofRegistration (a.callLater delay target).1)
      : Deed τ κ ε) (a.callLater delay target).2 := by
  unfold callLater
  cases haccept : a.accept target with
  | error refusal => exact .refused trivial (Or.inl rfl)
  | ok callback =>
    obtain ⟨rfl, hopen⟩ := accept_eq_ok_iff.mp haccept
    cases delay with
    | error fault => exact .refused trivial (Or.inr rfl)
    | ok delay => exact .later hopen

lemma callEvery_change (period : Except DelayFault τ) (target : Target κ) :
    Change a (.asked (.callEvery period target) (Reply.ofRegistration (a.callEvery period target).1)
      : Deed τ κ ε) (a.callEvery period target).2 := by
  unfold callEvery
  cases haccept : a.accept target with
  | error refusal => exact .refused trivial (Or.inl rfl)
  | ok callback =>
    obtain ⟨rfl, hopen⟩ := accept_eq_ok_iff.mp haccept
    cases period with
    | error fault => exact .refused trivial (Or.inr rfl)
    | ok period => exact .every hopen

lemma cancelCall_change (key : Key) :
    Change a (.asked (.cancelCall key) (Reply.ofCancel (a.cancelCall key).1) : Deed τ κ ε)
      (a.cancelCall key).2 := by
  cases key with
  | handle handle => exact .cancelled
  | foreign =>
    have hforeign : ∀ handle, Key.foreign ≠ .handle handle := by simp
    exact .unknown hforeign (Or.inl rfl) (Or.inl rfl)
  | unhashable typeName =>
    have hforeign : ∀ handle, Key.unhashable typeName ≠ .handle handle := by simp
    unfold cancelCall checkKey
    cases a.events.isEmpty with
    | true => exact .unknown hforeign (Or.inl rfl) (Or.inl rfl)
    | false => exact .unknown hforeign (Or.inl rfl) (Or.inr ⟨_, rfl⟩)

lemma cancelEvery_change (key : Key) :
    Change a (.asked (.cancelEvery key) (Reply.ofCancel (a.cancelEvery key).1) : Deed τ κ ε)
      (a.cancelEvery key).2 := by
  cases key with
  | handle handle => exact .stopped
  | foreign =>
    have hforeign : ∀ handle, Key.foreign ≠ .handle handle := by simp
    exact .unknown hforeign (Or.inr rfl) (Or.inl rfl)
  | unhashable typeName =>
    have hforeign : ∀ handle, Key.unhashable typeName ≠ .handle handle := by simp
    -- both tables are looked up, the second one only if the first is empty
    unfold cancelEvery cancelCall checkKey
    cases a.intervals.isEmpty with
    | true =>
      cases a.events.isEmpty with
      | true => exact .unknown hforeign (Or.inr rfl) (Or.inl rfl)
      | false => exact .unknown hforeign (Or.inr rfl) (Or.inr ⟨_, rfl⟩)
    | false => exact .unknown hforeign (Or.inr rfl) (Or.inr ⟨_, rfl⟩)

omit [Zero τ] in
lemma turn_eq_wait {moment : τ} (h : a.turn = .wait moment) :
    ∃ event, earliest? a.queue = some event ∧ a.now < event.due ∧
      moment = a.now + (event.due - a.now) ∧ a.passesDeadline (event.due - a.now) = false := by
  unfold turn at h
  cases hfirst : earliest? a.queue with
  | none => simp [hfirst] at h
  | some event =>
    simp only [hfirst] at h
    by_cases hearly : a.now < event.due
    · by_cases hpasses : a.passesDeadline (event.due - a.now) = true
      · simp [hearly, hpasses] at h
      · simp only [hearly, if_true, hpasses, Bool.false_eq_true, if_false, Turn.wait.injEq] at h
        exact ⟨event, rfl, hearly, h.symm, Bool.not_eq_true _ ▸ hpasses⟩
    · simp [hearly] at h

omit [Zero τ] in
lemma turn_eq_fire {event : Event τ κ} (h : a.turn = .fire event) :
    earliest? a.queue = some event ∧ ¬ a.now < event.due := by
  unfold turn at h
  cases hfirst : earliest? a.queue with
  | none => simp [hfirst] at h
  | some first =>
    simp only [hfirst] at h
    by_cases hearly : a.now < first.due
    · by_cases hpasses : a.passesDeadline (first.due - a.now) = true <;>
        simp [hearly, hpasses] at h
    · simp only [hearly, if_false, Turn.fire.injEq] at h
      exact ⟨congrArg some h, h ▸ hearly⟩

omit [Sub τ] [LT τ] [DecidableLT τ] [Zero τ] in
/-- Starting an event takes it off; a repeating one with its interval enters the next event. -/
lemma start_eq (l : a.Linked) {event : Event τ κ} (hevent : event ∈ a.queue) :
    (∀ callback, event.action = .once callback →
      a.start event = (some callback, a.removeEvent event.handle)) ∧
    (∀ interval, event.action = .again → find? a.intervals event.handle = some interval →
      a.start event = (some interval.callback,
        (a.removeEvent event.handle).enter interval.period event.handle .again)) := by
  have hfound := l.find?_handle hevent
  constructor
  · intro callback haction
    simp only [start, haction, removeEvent, hfound]
  · intro interval haction hinterval
    -- the old entry of the handle is still in the table, and is replaced by the new one
    simp only [start, haction, removeEvent, hfound, hinterval, enter, put_erase]

/-- Whatever happens to a consistent agenda is in the list. -/
theorem Happens.change (c : a.Consistent) (h : Happens a deed b) : Change a deed b := by
  cases h with
  | @asked _ op reply plain performed =>
    cases op with
    | callLater delay target =>
      simp only [Op.perform, Prod.mk.injEq, and_true] at performed
      obtain ⟨rfl, rfl⟩ := performed
      exact callLater_change delay target
    | callEvery period target =>
      simp only [Op.perform, Prod.mk.injEq, and_true] at performed
      obtain ⟨rfl, rfl⟩ := performed
      exact callEvery_change period target
    | cancelCall key =>
      simp only [Op.perform, Prod.mk.injEq, and_true] at performed
      obtain ⟨rfl, rfl⟩ := performed
      exact cancelCall_change key
    | cancelEvery key =>
      simp only [Op.perform, Prod.mk.injEq, and_true] at performed
      obtain ⟨rfl, rfl⟩ := performed
      exact cancelEvery_change key
    | drain deadline => exact absurd rfl (plain deadline)
    | close =>
      simp only [Op.perform, Prod.mk.injEq, and_true] at performed
      obtain ⟨rfl, rfl⟩ := performed
      rw [c.toLinked.close_eq]
      exact .closed
    | advance span =>
      simp only [Op.perform, Prod.mk.injEq, and_true] at performed
      obtain ⟨rfl, rfl⟩ := performed
      exact .advanced
  | began deadline => exact .began deadline
  | waited turn =>
    obtain ⟨event, hfirst, hearly, rfl, -⟩ := turn_eq_wait turn
    exact .waited hfirst hearly
  | @started _ event callback turn start =>
    obtain ⟨hfirst, hdue⟩ := turn_eq_fire turn
    have hevent := mem_of_earliest? hfirst
    obtain ⟨honce, hagain⟩ := start_eq c.toLinked hevent
    cases haction : event.action with
    | once k =>
      rw [honce k haction, Prod.mk.injEq, Option.some.injEq] at start
      obtain ⟨rfl, rfl⟩ := start
      exact .ranOnce hfirst hdue haction
    | again =>
      obtain ⟨interval, hinterval⟩ := c.interval_of_again event hevent haction
      rw [hagain interval haction hinterval, Prod.mk.injEq, Option.some.injEq] at start
      obtain ⟨rfl, rfl⟩ := start
      exact .ranAgain hfirst hdue haction hinterval
  | @dropped _ event turn start =>
    obtain ⟨hfirst, -⟩ := turn_eq_fire turn
    have hevent := mem_of_earliest? hfirst
    obtain ⟨honce, hagain⟩ := start_eq c.toLinked hevent
    cases haction : event.action with
    | once k =>
      rw [honce k haction] at start
      cases start
    | again =>
      obtain ⟨interval, hinterval⟩ := c.interval_of_again event hevent haction
      rw [hagain interval haction hinterval] at start
      cases start

/-! ## Every step keeps an agenda consistent -/

omit [Add τ] [Sub τ] [LT τ] [DecidableLT τ] [Zero τ] in
lemma Consistent.empty (now : τ) : (Agenda.empty now : Agenda τ κ).Consistent where
  handles_nodup := List.nodup_nil
  orders_nodup := List.nodup_nil
  mem_queue_iff := by simp [Agenda.empty]
  handle_eq := by simp [Agenda.empty]
  handle_lt := by simp [Agenda.empty]
  order_lt := by simp [Agenda.empty]
  interval_of_again := by simp [Agenda.empty]
  interval_lt := by simp [Agenda.empty]
  intervals_nodup := List.nodup_nil

/-- A step keeps the queue and the tables together, and a repeating event its interval. -/
theorem Change.consistent (c : a.Consistent) (h : Change a deed b) : b.Consistent := by
  have hfresh : ¬ a.Pending a.nextHandle := fun hp => by
    have := c.lt_of_pending hp
    omega
  cases h with
  | refused registration next =>
    exact c.frame rfl rfl rfl rfl (by rcases next with rfl | rfl <;> simp)
  | later isOpen =>
    have c' := c.frame (b := { a with nextHandle := a.nextHandle + 1 }) rfl rfl rfl rfl (by simp)
    exact c'.enter hfresh (Nat.lt_succ_self _) (by simp)
  | @every period callback isOpen =>
    have c' := c.frame (b := { a with nextHandle := a.nextHandle + 1 }) rfl rfl rfl rfl (by simp)
    have c'' := c'.put_interval ⟨clamp period, callback⟩ (Nat.lt_succ_self a.nextHandle)
    exact c''.enter hfresh (Nat.lt_succ_self _) fun _ => ⟨_, find?_put_self⟩
  | cancelled => exact c.removeEvent
  | stopped => exact c.erase_interval
  | unknown foreign asks answer => exact c
  | closed =>
    exact { handles_nodup := List.nodup_nil, orders_nodup := List.nodup_nil,
            mem_queue_iff := by simp, handle_eq := by simp, handle_lt := by simp,
            order_lt := by simp, interval_of_again := by simp, interval_lt := by simp,
            intervals_nodup := List.nodup_nil }
  | advanced => exact c.frame rfl rfl rfl rfl le_rfl
  | began deadline => exact c.frame rfl rfl rfl rfl le_rfl
  | waited first early => exact c.frame rfl rfl rfl rfl le_rfl
  | ranOnce first due action => exact c.removeEvent
  | @ranAgain event interval first due action found =>
    -- the handle is free once its event is taken off, so the next one can be entered for it
    refine c.removeEvent.enter ?_ ?_ fun _ => ⟨interval, ?_⟩
    · rw [pending_removeEvent_iff]
      simp
    · rw [removeEvent_nextHandle]
      exact c.lt_of_pending (c.pending_iff.mpr ⟨event, mem_of_earliest? first, rfl⟩)
    · rw [removeEvent_intervals, found]

/-- Only waiting and advancing move the clock, and only a drain sets the deadline. -/
lemma Change.asked_frame {op : Op τ κ} {reply : Reply ε}
    (h : Change a (.asked op reply : Deed τ κ ε) b) (hop : ∀ span, op ≠ .advance span) :
    b.now = a.now ∧ b.deadline = a.deadline := by
  cases h with
  | @advanced span => exact absurd rfl (hop span)
  | cancelled => simp
  | stopped => simp
  | _ => exact ⟨rfl, rfl⟩

/-- The clock stands still while a callback is started, and the deadline stays. -/
lemma Change.started_frame {event : Event τ κ} {callback : κ}
    (h : Change a (.started event callback : Deed τ κ ε) b) :
    b.now = a.now ∧ b.deadline = a.deadline := by
  cases h with
  | ranOnce first due action => simp
  | ranAgain first due action found => simp [enter]

end Changes

/-! ## The rule of the drain loop -/

section Drain

variable {τ κ ε μ : Type} [Add τ] [Sub τ] [LT τ] [DecidableLT τ] [Zero τ]

omit [Zero τ] in
lemma turn_eq_idle {a : Agenda τ κ} (h : a.turn = .idle) : a.queue = [] := by
  unfold turn at h
  cases hfirst : earliest? a.queue with
  | none => exact earliest?_eq_none_iff.mp hfirst
  | some event =>
    simp only [hfirst] at h
    split at h
    · split at h <;> cases h
    · cases h

omit [Zero τ] in
lemma turn_eq_late {a : Agenda τ κ} (h : a.turn = .late) :
    ∃ event, earliest? a.queue = some event ∧ a.now < event.due ∧
      a.passesDeadline (event.due - a.now) = true := by
  unfold turn at h
  cases hfirst : earliest? a.queue with
  | none => simp [hfirst] at h
  | some event =>
    simp only [hfirst] at h
    by_cases hearly : a.now < event.due
    · by_cases hpasses : a.passesDeadline (event.due - a.now) = true
      · exact ⟨event, rfl, hearly, hpasses⟩
      · simp [hearly, hpasses] at h
    · simp [hearly] at h

/-- What one turn of a drain keeps, and what is known when it stops. -/
structure TurnRule (invoke : κ → Agenda τ κ → μ → Ending ε × Agenda τ κ × μ)
    (Kept : Agenda τ κ → μ → Prop) (Stopped : Ending ε → Agenda τ κ → μ → Prop) : Prop where
  endless : ∀ a m, Kept a m → Stopped .endless a m
  idle : ∀ a m, Kept a m → a.turn = .idle → Stopped .done a m
  late : ∀ a m, Kept a m → a.turn = .late → Stopped .late a m
  wait : ∀ a m moment, Kept a m → a.turn = .wait moment → Kept { a with now := moment } m
  dropped : ∀ a m event b, Kept a m → a.turn = .fire event → a.start event = (none, b) →
    if b.isLate then Stopped .late b m else Kept b m
  fired : ∀ a m event callback b c m', Kept a m → a.turn = .fire event →
    a.start event = (some callback, b) → invoke callback b m = (.done, c, m') →
    if c.isLate then Stopped .late c m' else Kept c m'
  ended : ∀ a m event callback b ending c m', Kept a m → a.turn = .fire event →
    a.start event = (some callback, b) → invoke callback b m = (ending, c, m') →
    ending ≠ .done → Stopped ending c m'

/-- A drain keeps what each of its turns keeps, until it stops. -/
theorem drainTurns_rule {invoke : κ → Agenda τ κ → μ → Ending ε × Agenda τ κ × μ}
    {Kept : Agenda τ κ → μ → Prop} {Stopped : Ending ε → Agenda τ κ → μ → Prop}
    (rule : TurnRule invoke Kept Stopped) (turns : Nat) : ∀ (a : Agenda τ κ) (m : μ), Kept a m →
      Stopped (drainTurns invoke turns a m).1 (drainTurns invoke turns a m).2.1
        (drainTurns invoke turns a m).2.2 := by
  induction turns with
  | zero => exact rule.endless
  | succ turns ih =>
    intro a m hkept
    rw [drainTurns]
    cases hturn : a.turn with
    | idle => exact rule.idle a m hkept hturn
    | late => exact rule.late a m hkept hturn
    | wait moment => exact ih _ _ (rule.wait a m moment hkept hturn)
    | fire event =>
      rcases hstart : a.start event with ⟨_ | callback, b⟩
      · have hnext := rule.dropped a m event b hkept hturn hstart
        simp only [hstart]
        by_cases hlate : b.isLate = true
        · rw [if_pos hlate] at hnext
          simpa only [hlate, if_true] using hnext
        · rw [if_neg hlate] at hnext
          simp only [hlate, Bool.false_eq_true, if_false]
          exact ih _ _ hnext
      · simp only [hstart]
        rcases hran : invoke callback b m with ⟨ending, c, m'⟩
        by_cases hdone : ending = .done
        · subst hdone
          have hnext := rule.fired a m event callback b c m' hkept hturn hstart hran
          by_cases hlate : c.isLate = true
          · rw [if_pos hlate] at hnext
            simpa only [hlate, if_true] using hnext
          · rw [if_neg hlate] at hnext
            simp only [hlate, Bool.false_eq_true, if_false]
            exact ih _ _ hnext
        · have hstopped := rule.ended a m event callback b ending c m' hkept hturn hstart hran hdone
          cases ending with
          | done => exact absurd rfl hdone
          | _ => exact hstopped

end Drain

/-! ## Every agenda that a history reaches -/

section Reached

variable {τ κ ε μ α : Type} [Add τ] [Sub τ] [LT τ] [DecidableLT τ] [Zero τ]

section Leads

variable {a b : Agenda τ κ} {log : List (Mark τ κ ε)}

/-- A history that begins with a consistent agenda meets only consistent ones, and each of its
marks is one of the listed changes. -/
lemma Leads.consistent (c : a.Consistent) (h : Leads a log b) :
    b.Consistent ∧ ∀ mark ∈ log, mark.before.Consistent ∧ mark.after.Consistent ∧
      Change mark.before mark.deed mark.after := by
  obtain ⟨hlast, hmarks⟩ := h.always (P := Consistent) c
    fun mark hbefore hhappens => (hhappens.change hbefore).consistent hbefore
  refine ⟨hlast, fun mark hmark => ?_⟩
  obtain ⟨hbefore, hhappens⟩ := hmarks mark hmark
  have hchange := hhappens.change hbefore
  exact ⟨hbefore, hchange.consistent hbefore, hchange⟩

end Leads

/-- Nothing but the next handle is touched by a registration that is refused. -/
lemma Change.of_refused {a b : Agenda τ κ} {op : Op τ κ} {refusal : Refusal}
    (h : Change a (.asked op (.refused refusal) : Deed τ κ ε) b) :
    b = { a with nextHandle := b.nextHandle } ∧
      (b.nextHandle = a.nextHandle ∨ b.nextHandle = a.nextHandle + 1) := by
  generalize hdeed : (.asked op (.refused refusal) : Deed τ κ ε) = deed at h
  cases h with
  | refused registration next => exact ⟨rfl, next⟩
  | unknown foreign asks answer =>
    obtain ⟨-, rfl⟩ := Deed.asked.inj hdeed
    rcases answer with h | ⟨bad, h⟩ <;> cases h
  | _ => cases hdeed

variable (b : Behaviour τ κ ε μ) (turns : Nat) (caller : Script (Op τ κ) (Reply ε) α) (now : τ)
  (m : μ)

/-- Every point of a history that begins with an empty agenda is consistent. -/
lemma session_consistent : let run := b.session turns caller (.empty now) m
    (∀ a ∈ run.points (.empty now), a.Consistent) ∧
      ∀ mark ∈ run.log, mark.before.Consistent ∧ Change mark.before mark.deed mark.after := by
  intro run
  obtain ⟨-, hmarks⟩ := (session_leads b turns caller (.empty now) m).consistent
    (Consistent.empty now)
  refine ⟨fun a ha => ?_, fun mark hmark => ⟨(hmarks mark hmark).1, (hmarks mark hmark).2.2⟩⟩
  rcases List.mem_cons.mp ha with rfl | hafter
  · exact Consistent.empty now
  · obtain ⟨mark, hmark, rfl⟩ := List.mem_map.mp hafter
    exact (hmarks mark hmark).2.1

/-- The representation invariant of the agenda, with its consequences.

At every point of every history, the table of events is a bijection onto the queue, whose inverse
is the handle of an event; each repeating event in the queue has its interval; the handles of both
tables have been given out. So `pending` counts the queue, the event that a cancellation takes off
the queue is there (also at each stage of closing), no event is dropped for want of an interval,
and a refused registration leaves everything but the next handle as it was. -/
theorem representation_invariant : let run := b.session turns caller (.empty now) m
    (∀ a ∈ run.points (.empty now),
      a.queue.Nodup ∧ (a.events.map (·.1)).Nodup ∧ (a.intervals.map (·.1)).Nodup ∧
      (∀ h e, find? a.events h = some e ↔ e ∈ a.queue ∧ e.handle = h) ∧
      (∀ e ∈ a.queue, e.action = .again → ∃ interval, find? a.intervals e.handle = some interval) ∧
      (∀ h, h ∈ a.events.map (·.1) ∨ h ∈ a.intervals.map (·.1) → h < a.nextHandle) ∧
      a.pending = a.queue.length ∧
      (∀ n h e, find? (a.closing n).events h = some e → e ∈ (a.closing n).queue)) ∧
    (∀ mark ∈ run.log, ∀ e, mark.deed ≠ .dropped e) ∧
    (∀ mark ∈ run.log, ∀ op refusal, mark.deed = .asked op (.refused refusal) →
      mark.after = { mark.before with nextHandle := mark.after.nextHandle } ∧
      (mark.after.nextHandle = mark.before.nextHandle ∨
        mark.after.nextHandle = mark.before.nextHandle + 1)) := by
  intro run
  obtain ⟨hpoints, hmarks⟩ := session_consistent b turns caller now m
  refine ⟨fun a ha => ?_, fun mark hmark e hdropped => ?_, fun mark hmark op refusal hrefused => ?_⟩
  · have c := hpoints a ha
    refine ⟨c.queue_nodup, c.handles_nodup, c.intervals_nodup, fun h e => c.find?_events_iff,
      c.interval_of_again, ?_, c.pending_eq_length, fun n h e hfound => ?_⟩
    · rintro h (hevent | hinterval)
      · exact c.lt_of_pending hevent
      · obtain ⟨entry, hentry, rfl⟩ := List.mem_map.mp hinterval
        exact c.interval_lt entry hentry
    · exact ((c.closing n).1.find?_events_iff.mp hfound).1
  · have hchange := (hmarks mark hmark).2
    rw [hdropped] at hchange
    cases hchange
  · have hchange := (hmarks mark hmark).2
    rw [hrefused] at hchange
    exact hchange.of_refused

end Reached

end SnippetRunner.Timer
