import SnippetRunner.Proofs.Timer.Lifecycle
import SnippetRunner.Proofs.Timer.Timeline

/-!
# Callbacks run in the order of their due times

On a clock that is never set back, the callbacks of a whole history are started in the order of
due times, and in the order of scheduling where these are equal. This is a law about all drains
of a history together, nested and resumed ones.

The invariant is `Ordered`: what was started comes before what is still waiting. It holds of an
event that is entered later because a due time is never before the clock, and the clock is never
before the due time of what was started.
-/

namespace SnippetRunner.Timer

open Agenda Timeline

variable {τ κ ε μ α : Type}

/-! ## What is started and what is scheduled -/

namespace Deed

/-- The event whose callback is started. -/
def startedEvent? : Deed τ κ ε → Option (Event τ κ)
  | .started event _ => some event
  | _ => none

/-- The handle that an event is entered for: a registration enters one, and so does a repeating
timer when it is started. -/
def scheduled? : Deed τ κ ε → Option Nat
  | .asked (.callLater _ _) (.handle n) => some n
  | .asked (.callEvery _ _) (.handle n) => some n
  | .started ⟨_, _, handle, .again⟩ _ => some handle
  | _ => none

/-- The delay or the period that a handle was registered with. -/
def span? (h : Nat) : Deed τ κ ε → Option τ
  | .asked (.callLater (.ok delay) _) (.handle n) => if n = h then some delay else none
  | .asked (.callEvery (.ok period) _) (.handle n) => if n = h then some period else none
  | _ => none

lemma scheduled?_of_unanswered {op : Op τ κ} {reply : Reply ε} (hreply : ∀ n, reply ≠ .handle n) :
    (Deed.asked op reply).scheduled? = none := by
  cases reply with
  | handle n => exact absurd rfl (hreply n)
  | _ => cases op <;> rfl

end Deed

/-- Where an event comes from: it was scheduled by a mark of the history, and is due by its handle's
time span after the clock of that moment. Its order counts what was scheduled before it. -/
def ScheduledIn [Add τ] [LT τ] [DecidableLT τ] [Zero τ] (log : List (Mark τ κ ε))
    (e : Event τ κ) : Prop :=
  ∃ before mark since span, log = before ++ mark :: since ∧
    mark.deed.scheduled? = some e.handle ∧
    e.order = before.countP (·.deed.scheduled?.isSome) ∧
    (∃ registration ∈ before ++ [mark], registration.deed.span? e.handle = some span) ∧
    e.due = mark.before.now + clamp span

section Steps

variable [Add τ] [Sub τ] [LT τ] [DecidableLT τ] [Zero τ] {a b : Agenda τ κ} {deed : Deed τ κ ε}
  {mark : Mark τ κ ε} {log : List (Mark τ κ ε)} {h : Nat} {e f : Event τ κ}

/-! ## Where events come from -/

omit [Sub τ] in
lemma ScheduledIn.append (scheduled : ScheduledIn log e) : ScheduledIn (log ++ [mark]) e := by
  obtain ⟨before, other, since, span, rfl, hrest⟩ := scheduled
  exact ⟨before, other, since ++ [mark], span, by simp, hrest⟩

/-- The events of the queue and the periods of the intervals come from the history. -/
structure Traced (log : List (Mark τ κ ε)) (a : Agenda τ κ) : Prop where
  nextOrder_eq : a.nextOrder = log.countP (·.deed.scheduled?.isSome)
  scheduled : ∀ e ∈ a.queue, ScheduledIn log e
  period : ∀ entry ∈ a.intervals, ∃ registration ∈ log, ∃ span,
    registration.deed.span? entry.1 = some span ∧ entry.2.period = clamp span

omit [Sub τ] in
/-- A step that schedules nothing leaves the origins what they were. -/
lemma Traced.unscheduled (t : Traced log a) (hnone : mark.deed.scheduled? = none)
    (hqueue : b.queue ⊆ a.queue) (hintervals : b.intervals ⊆ a.intervals)
    (hOrder : b.nextOrder = a.nextOrder) : Traced (log ++ [mark]) b where
  nextOrder_eq := by
    rw [hOrder, t.nextOrder_eq, List.countP_append, List.countP_singleton, hnone]
    rfl
  scheduled := fun e he => (t.scheduled e (hqueue he)).append
  period := by
    intro entry hentry
    obtain ⟨registration, hmem, hspan⟩ := t.period entry (hintervals hentry)
    exact ⟨registration, List.mem_append_left _ hmem, hspan⟩

omit [Sub τ] in
/-- A step that enters an event leaves it at the end of the history. -/
lemma Traced.entered (t : Traced log mark.before) {span : τ} {action : Action κ}
    (hbefore : b.now = mark.before.now ∧ b.nextOrder = mark.before.nextOrder ∧
      b.queue ⊆ mark.before.queue)
    (hsome : mark.deed.scheduled? = some h)
    (hspan : ∃ registration ∈ log ++ [mark], registration.deed.span? h = some span)
    (hintervals : ∀ entry ∈ b.intervals, entry ∈ mark.before.intervals ∨
      ∃ span, mark.deed.span? entry.1 = some span ∧ entry.2.period = clamp span) :
    Traced (log ++ [mark]) (b.enter (clamp span) h action) where
  nextOrder_eq := by
    rw [enter, hbefore.2.1, t.nextOrder_eq, List.countP_append, List.countP_singleton, hsome]
    rfl
  scheduled := by
    intro e he
    rcases mem_queue_enter.mp he with hold | rfl
    · exact (t.scheduled e (hbefore.2.2 hold)).append
    · refine ⟨log, mark, [], span, rfl, hsome, ?_, hspan, ?_⟩
      · rw [← t.nextOrder_eq, ← hbefore.2.1]
      · rw [← hbefore.1]
  period := by
    intro entry hentry
    rcases hintervals entry hentry with hold | ⟨span, hspan, hperiod⟩
    · obtain ⟨registration, hmem, hspan⟩ := t.period entry hold
      exact ⟨registration, List.mem_append_left _ hmem, hspan⟩
    · exact ⟨mark, by simp, span, hspan, hperiod⟩

/-- Every step keeps the origins known. -/
lemma Change.traced (change : Change mark.before mark.deed mark.after) (t : Traced log mark.before) :
    Traced (log ++ [mark]) mark.after := by
  obtain ⟨a, deed, b⟩ := mark
  simp only at change t
  cases change with
  | refused registration next =>
    exact t.unscheduled (Deed.scheduled?_of_unanswered (by simp)) (List.Subset.refl _)
      (List.Subset.refl _) rfl
  | @later delay callback isOpen =>
    refine t.entered (b := { a with nextHandle := a.nextHandle + 1 })
      ⟨rfl, rfl, List.Subset.refl _⟩ rfl ?_ fun entry hentry => Or.inl hentry
    exact ⟨_, List.mem_append_right _ (List.mem_singleton_self _), by simp [Deed.span?]⟩
  | @every period callback isOpen =>
    refine t.entered (b := { a with
        nextHandle := a.nextHandle + 1
        intervals := put a.intervals a.nextHandle ⟨clamp period, callback⟩ })
      ⟨rfl, rfl, List.Subset.refl _⟩ rfl
      ⟨_, List.mem_append_right _ (List.mem_singleton_self _), by simp [Deed.span?]⟩ ?_
    intro entry hentry
    rcases mem_put.mp hentry with rfl | ⟨hold, -⟩
    · exact Or.inr ⟨period, by simp [Deed.span?], rfl⟩
    · exact Or.inl hold
  | cancelled =>
    refine t.unscheduled rfl removeEvent_queue_sublist.subset ?_ (by simp)
    rw [removeEvent_intervals]
    exact List.Subset.refl _
  | stopped =>
    exact t.unscheduled rfl stop_subset.1 stop_subset.2 (by simp)
  | unknown foreign asks answer =>
    refine t.unscheduled (Deed.scheduled?_of_unanswered fun n hn => ?_) (List.Subset.refl _)
      (List.Subset.refl _) rfl
    rcases answer with rfl | ⟨bad, rfl⟩ <;> cases hn
  | closed => exact t.unscheduled rfl (List.nil_subset _) (List.nil_subset _) rfl
  | @ranOnce event callback first due action =>
    refine t.unscheduled ?_ removeEvent_queue_sublist.subset ?_ (by simp)
    · obtain ⟨due, order, handle, kind⟩ := event
      obtain rfl : kind = .once callback := action
      rfl
    · rw [removeEvent_intervals]
      exact List.Subset.refl _
  | @ranAgain event interval first due action found =>
    obtain ⟨registration, hmem, span, hspan, hperiod⟩ :=
      t.period (event.handle, interval) (mem_of_find?_eq_some found)
    rw [show interval.period = clamp span from hperiod]
    refine t.entered (b := a.removeEvent event.handle) ⟨by simp, by simp,
      removeEvent_queue_sublist.subset⟩ ?_ ⟨registration, List.mem_append_left _ hmem, hspan⟩ ?_
    · obtain ⟨due, order, handle, kind⟩ := event
      obtain rfl : kind = .again := action
      rfl
    · intro entry hentry
      rw [removeEvent_intervals] at hentry
      exact Or.inl hentry
  | _ => exact t.unscheduled rfl (List.Subset.refl _) (List.Subset.refl _) rfl

/-! ## The order of what is started -/

variable [Timeline τ]

/-- A step on a clock that is not set back, with time spans that are times. -/
def Deed.Forward : Deed τ κ ε → Prop
  | .asked (.advance span) _ => IsTime span ∧ ¬ span < 0
  | .asked (.callLater (.ok delay) _) _ => IsTime (clamp delay)
  | .asked (.callEvery (.ok period) _) _ => IsTime (clamp period)
  | _ => True

/-- The clock, the due times and the periods of an agenda are times. -/
structure InTime (a : Agenda τ κ) : Prop where
  now : IsTime a.now
  due : ∀ e ∈ a.queue, IsTime e.due
  period : ∀ entry ∈ a.intervals, IsTime entry.2.period ∧ ¬ entry.2.period < 0

/-- What was started comes in order, and before everything that is waiting. -/
structure Ordered (fired : List (Event τ κ)) (a : Agenda τ κ) : Prop where
  pairwise : fired.Pairwise fun e f => before e f = true
  before_queue : ∀ e ∈ fired, ∀ f ∈ a.queue, before e f = true
  due : ∀ e ∈ fired, ¬ a.now < e.due
  order_lt : ∀ e ∈ fired, e.order < a.nextOrder

omit [Add τ] [Sub τ] [Timeline τ] in
lemma not_clamp_lt_zero (irrefl : ¬ (0 : τ) < 0) (span : τ) : ¬ clamp span < 0 := by
  unfold clamp
  by_cases hspan : span < 0
  · rwa [if_pos hspan]
  · rwa [if_neg hspan]

omit [DecidableLT τ] in
lemma InTime.enter (t : InTime a) {span : τ} {action : Action κ} (htime : IsTime span)
    (hspan : ¬ span < 0) : InTime (a.enter span h action) where
  now := t.now
  due := by
    intro e he
    rcases mem_queue_enter.mp he with hold | rfl
    · exact t.due e hold
    · exact isTime_add t.now htime hspan
  period := t.period

omit [DecidableLT τ] in
lemma InTime.mono (t : InTime a) (hnow : IsTime b.now) (hqueue : b.queue ⊆ a.queue)
    (hintervals : b.intervals ⊆ a.intervals) : InTime b :=
  ⟨hnow, fun e he => t.due e (hqueue he), fun entry hentry => t.period entry (hintervals hentry)⟩

/-- Every step on such a clock keeps the times, and the clock goes on. -/
lemma Change.inTime (change : Change a deed b) (hforward : deed.Forward)
    (t : InTime a) : InTime b ∧ ¬ b.now < a.now := by
  have irrefl : ∀ x : τ, ¬ x < x := fun x hlt => not_lt_of_lt hlt hlt
  cases change with
  | @later delay callback isOpen =>
    have t' : InTime { a with nextHandle := a.nextHandle + 1 } := ⟨t.now, t.due, t.period⟩
    exact ⟨t'.enter hforward (not_clamp_lt_zero (irrefl 0) delay), irrefl _⟩
  | @every period callback isOpen =>
    have hperiod := not_clamp_lt_zero (irrefl 0) period
    have t' : InTime { a with
        nextHandle := a.nextHandle + 1
        intervals := put a.intervals a.nextHandle ⟨clamp period, callback⟩ } := by
      refine ⟨t.now, t.due, fun entry hentry => ?_⟩
      rcases mem_put.mp hentry with rfl | ⟨hold, -⟩
      · exact ⟨hforward, hperiod⟩
      · exact t.period entry hold
    exact ⟨t'.enter hforward hperiod, irrefl _⟩
  | cancelled =>
    refine ⟨t.mono (by simpa using t.now) removeEvent_queue_sublist.subset (by simp), ?_⟩
    rw [removeEvent_now]
    exact irrefl _
  | stopped =>
    refine ⟨t.mono (by simpa using t.now) stop_subset.1 stop_subset.2, ?_⟩
    rw [removeEvent_now]
    exact irrefl _
  | closed => exact ⟨⟨t.now, by simp, by simp⟩, irrefl _⟩
  | advanced =>
    obtain ⟨htime, hspan⟩ := hforward
    exact ⟨⟨isTime_add t.now htime hspan, t.due, t.period⟩, not_add_lt t.now htime hspan⟩
  | @waited event first early =>
    have hdue := t.due event (mem_of_earliest? first)
    have htime := isTime_sub t.now hdue early
    have hspan := not_sub_lt_zero t.now hdue early
    exact ⟨⟨isTime_add t.now htime hspan, t.due, t.period⟩, not_add_lt t.now htime hspan⟩
  | ranOnce first due action =>
    refine ⟨t.mono (by simpa using t.now) removeEvent_queue_sublist.subset (by simp), ?_⟩
    rw [removeEvent_now]
    exact irrefl _
  | @ranAgain event interval first due action found =>
    obtain ⟨htime, hperiod⟩ := t.period _ (mem_of_find?_eq_some found)
    refine ⟨InTime.enter (t.mono (by simpa using t.now) removeEvent_queue_sublist.subset
      (by simp)) htime hperiod, ?_⟩
    rw [show ((a.removeEvent event.handle).enter interval.period event.handle .again).now
      = (a.removeEvent event.handle).now from rfl, removeEvent_now]
    exact irrefl _
  | _ => exact ⟨⟨t.now, t.due, t.period⟩, irrefl _⟩

omit [Add τ] [Sub τ] [Zero τ] [Timeline τ] in
/-- Nothing that comes to wait can come before what was started, as long as the clock goes on. -/
lemma Ordered.mono {fired : List (Event τ κ)} (o : Ordered fired a) (hqueue : b.queue ⊆ a.queue)
    (hdue : ∀ e ∈ fired, ¬ b.now < e.due) (hOrder : a.nextOrder ≤ b.nextOrder) :
    Ordered fired b where
  pairwise := o.pairwise
  before_queue := fun e he f hf => o.before_queue e he f (hqueue hf)
  due := hdue
  order_lt := fun e he => lt_of_lt_of_le (o.order_lt e he) hOrder

/-- An event that is entered is due no earlier than the clock, so it comes after what was started. -/
lemma Ordered.enter {fired : List (Event τ κ)} (o : Ordered fired a) (hnow : IsTime a.now)
    {span : τ} {action : Action κ} (htime : IsTime span) (hspan : ¬ span < 0) :
    Ordered fired (a.enter span h action) where
  pairwise := o.pairwise
  before_queue := by
    intro e he f hf
    rcases mem_queue_enter.mp hf with hold | rfl
    · exact o.before_queue e he f hold
    · -- the due time of `e` is not after the clock, nor the clock after the new due time
      have hlt : ¬ a.now + span < e.due :=
        not_lt_trans hnow (not_add_lt hnow htime hspan) (o.due e he)
      exact before_iff.mpr (Or.inr ⟨hlt, o.order_lt e he⟩)
  due := o.due
  order_lt := fun e he => Nat.lt_succ_of_lt (o.order_lt e he)

/-- The first event of the queue comes after what was started and before the rest. -/
lemma Ordered.fire {fired : List (Event τ κ)} (o : Ordered fired a)
    (c : a.Consistent) (t : InTime a) (hfirst : earliest? a.queue = some e)
    (hdue : ¬ a.now < e.due) : Ordered (fired ++ [e]) (a.removeEvent e.handle) where
  pairwise := by
    rw [List.pairwise_append]
    refine ⟨o.pairwise, List.pairwise_singleton _ _, fun f hf g hg => ?_⟩
    rw [List.mem_singleton] at hg
    exact hg ▸ o.before_queue f hf e (mem_of_earliest? hfirst)
  before_queue := by
    intro f hf g hg
    obtain ⟨hqueue, hne⟩ := c.mem_queue_removeEvent.mp hg
    rcases List.mem_append.mp hf with hold | hnew
    · exact o.before_queue f hold g hqueue
    · rw [List.mem_singleton] at hnew
      rw [hnew]
      exact earliest?_before t.due c.orders_nodup hfirst hqueue fun heq => hne (heq ▸ rfl)
  due := by
    intro f hf
    rw [removeEvent_now]
    rcases List.mem_append.mp hf with hold | hnew
    · exact o.due f hold
    · rw [List.mem_singleton] at hnew
      exact hnew ▸ hdue
  order_lt := by
    intro f hf
    rw [removeEvent_nextOrder]
    rcases List.mem_append.mp hf with hold | hnew
    · exact o.order_lt f hold
    · rw [List.mem_singleton] at hnew
      exact hnew ▸ c.order_lt e (mem_of_earliest? hfirst)

/-- Every step keeps the order of what was started. -/
lemma Change.ordered {fired : List (Event τ κ)} (c : a.Consistent) (change : Change a deed b)
    (hforward : deed.Forward) (t : InTime a) (o : Ordered fired a) :
    Ordered (fired ++ deed.startedEvent?.toList) b := by
  have hnow := (change.inTime hforward t).2
  -- the clock does not go back, so what was due stays due
  have hdue : ∀ e ∈ fired, ¬ b.now < e.due := fun e he => not_lt_trans t.now hnow (o.due e he)
  have irrefl : ¬ (0 : τ) < 0 := fun hlt => not_lt_of_lt hlt hlt
  have hkept : b.queue ⊆ a.queue → b.nextOrder = a.nextOrder → Ordered (fired ++ []) b := by
    intro hqueue hOrder
    rw [List.append_nil]
    exact o.mono hqueue hdue hOrder.ge
  cases change with
  | @later delay callback isOpen =>
    have o' : Ordered fired { a with nextHandle := a.nextHandle + 1 } :=
      o.mono (List.Subset.refl _) o.due le_rfl
    show Ordered (fired ++ []) _
    rw [List.append_nil]
    exact o'.enter t.now hforward (not_clamp_lt_zero irrefl delay)
  | @every period callback isOpen =>
    have o' : Ordered fired { a with
        nextHandle := a.nextHandle + 1
        intervals := put a.intervals a.nextHandle ⟨clamp period, callback⟩ } :=
      o.mono (List.Subset.refl _) o.due le_rfl
    show Ordered (fired ++ []) _
    rw [List.append_nil]
    exact o'.enter t.now hforward (not_clamp_lt_zero irrefl period)
  | @ranOnce event callback first due action => exact o.fire c t first due
  | @ranAgain event interval first due action found =>
    obtain ⟨htime, hperiod⟩ := t.period _ (mem_of_find?_eq_some found)
    refine (o.fire c t first due).enter ?_ htime hperiod
    rw [removeEvent_now]
    exact t.now
  | cancelled => exact hkept removeEvent_queue_sublist.subset (by simp)
  | stopped => exact hkept stop_subset.1 (by simp)
  | closed => exact hkept (List.nil_subset _) rfl
  | _ => exact hkept (List.Subset.refl _) rfl

end Steps

/-! ## Sessions -/

section Sessions

variable [Add τ] [Sub τ] [LT τ] [DecidableLT τ] [Zero τ] [Timeline τ]

/-- What holds of a history on a clock that is not set back, with the callbacks started so far. -/
lemma Leads.ordered {a b : Agenda τ κ} {log : List (Mark τ κ ε)} (c : a.Consistent)
    (t : InTime a) (hempty : a.queue = [] ∧ a.intervals = [] ∧ a.nextOrder = 0)
    (leads : Leads a log b) (hforward : ∀ mark ∈ log, mark.deed.Forward) :
    Ordered (log.filterMap (·.deed.startedEvent?)) b ∧ Traced log b := by
  refine ((leads.step_induction (P := fun log b => (∀ mark ∈ log, mark.deed.Forward) →
    InTime b ∧ Ordered (log.filterMap (·.deed.startedEvent?)) b ∧ Traced log b) c ?_ ?_).2
    hforward).2
  · intro _
    refine ⟨t, ⟨List.Pairwise.nil, by simp, by simp, by simp⟩, ⟨hempty.2.2, ?_, ?_⟩⟩
    · simp [hempty.1]
    · simp [hempty.2.1]
  · intro log mark hbefore change hlog hforward
    obtain ⟨htime, hordered, htraced⟩ :=
      hlog fun other hother => hforward other (List.mem_append_left _ hother)
    have hmark := hforward mark (List.mem_append_right _ (List.mem_singleton_self _))
    have hlast : [mark].filterMap (·.deed.startedEvent?) = mark.deed.startedEvent?.toList := by
      cases hstarted : mark.deed.startedEvent? <;> simp [hstarted]
    rw [List.filterMap_append, hlast]
    exact ⟨(change.inTime hmark htime).1, change.ordered hbefore hmark htime hordered,
      change.traced htraced⟩

/-- Over a whole history on a clock that is never set back, callbacks are started in strictly
increasing order of due time and scheduling. The due time of each is the clock of the moment it was
scheduled plus its delay, clamped at zero, and none is started before its due time. -/
theorem starts_in_due_order (b : Behaviour τ κ ε μ) (turns : Nat)
    (caller : Script (Op τ κ) (Reply ε) α) (now : τ) (m : μ) (hnow : IsTime now)
    (hforward : ∀ mark ∈ (b.session turns caller (.empty now) m).log, mark.deed.Forward) :
    let log := (b.session turns caller (.empty now) m).log
    (log.filterMap (·.deed.startedEvent?)).Pairwise
      (fun e f => e.due < f.due ∨ ¬ f.due < e.due ∧ e.order < f.order) ∧
    ∀ past mark rest e callback, log = past ++ mark :: rest → mark.deed = .started e callback →
      ¬ mark.before.now < e.due ∧ mark.after.now = mark.before.now ∧ ScheduledIn past e := by
  intro log
  have hleads : Leads (.empty now) log _ := session_leads b turns caller (.empty now) m
  have hempty : (Agenda.empty now : Agenda τ κ).Consistent := Consistent.empty now
  have htime : InTime (Agenda.empty now : Agenda τ κ) :=
    ⟨hnow, by simp [Agenda.empty], by simp [Agenda.empty]⟩
  constructor
  · have hordered := (hleads.ordered hempty htime ⟨rfl, rfl, rfl⟩ hforward).1
    exact hordered.pairwise.imp before_iff.mp
  · intro past mark rest e callback hlog hstarted
    rw [hlog] at hleads
    obtain ⟨mid, hpast, rfl, hhappens, -⟩ := Leads.append_iff.mp hleads
    have hforward' : ∀ other ∈ past, other.deed.Forward := by
      intro other hother
      refine hforward other ?_
      show other ∈ log
      rw [hlog]
      exact List.mem_append_left _ hother
    have htraced := (hpast.ordered hempty htime ⟨rfl, rfl, rfl⟩ hforward').2
    have hchange := hhappens.change (hpast.consistent hempty).1
    rw [hstarted] at hchange
    obtain ⟨hfirst, hdue⟩ := hchange.of_started
    exact ⟨hdue, hchange.started_frame.1, htraced.scheduled e (mem_of_earliest? hfirst)⟩

/-- Two timers due at once, the first of which registers a third one with a negative delay: all
three are started at the same moment, in the order of scheduling. -/
theorem starts_in_due_order_at_one_moment :
    let b : Behaviour ℤ Nat Unit Unit :=
      ⟨fun _ _ m => m, fun callback _ _ => if callback = 0 then
        .act (.callLater (.ok (-1)) (.callable 1)) fun _ => .stop .done else .stop .done⟩
    let caller : Script (Op ℤ Nat) (Reply Unit) Unit :=
      .act (.callEvery (.ok 2) (.callable 0)) fun _ =>
      .act (.callLater (.ok 2) (.callable 1)) fun _ =>
      .act (.drain (some 3)) fun _ => .stop ()
    let log := (b.session 10 caller (.empty 0) ()).log
    (∀ mark ∈ log, mark.deed.Forward) ∧
    (log.filterMap (·.deed.startedEvent?)).map (fun e => (e.due, e.order))
      = [(2, 0), (2, 1), (2, 3)] ∧
    (log.filterMap (·.deed.startedEvent?)).Pairwise
      (fun e f => e.due < f.due ∨ ¬ f.due < e.due ∧ e.order < f.order) := by
  intro b caller log
  have hforward : ∀ mark ∈ log, mark.deed.Forward := by
    rw [← List.forall_iff_forall_mem]
    repeat' constructor
  exact ⟨hforward, by decide,
    (starts_in_due_order b 10 caller 0 () trivial hforward).1⟩

end Sessions

end SnippetRunner.Timer
