import Mathlib.Data.List.Nodup
import Mathlib.Tactic.Lemma
import SnippetRunner.Timer.Agenda

/-!
# The queue and the tables of an agenda fit together

An agenda keeps its waiting events twice: in the queue, which decides what is next, and in a table
by handle, which decides what can still be cancelled. `Linked` says that the two hold the same
events, each under its own handle; `Consistent` adds that the intervals of all repeating events
are known.

The first sections show that every operation keeps both. Each one is reduced to three primitive
changes, whose effect on the queue is stated once: entering an event under a handle that has none
(`enter`), taking a handle's event off (`removeEvent`), and changes that touch neither.
-/

namespace SnippetRunner.Timer

/-! ## Tables from handles

`find?`, `erase` and `put` read and change one entry of a table and leave the others alone. What
they do is said twice: on the entries, and on the handles alone, which is what decides whether a
timer is still waiting. -/

section Tables

variable {α : Type} {table : List (Nat × α)} {h k : Nat} {x y : α}

lemma mem_of_find?_eq_some (hx : find? table h = some x) : (h, x) ∈ table := by
  rw [find?, Option.map_eq_some_iff] at hx
  obtain ⟨⟨k, y⟩, hfound, rfl⟩ := hx
  have hk : k = h := by simpa using List.find?_some hfound
  exact hk ▸ List.mem_of_find?_eq_some hfound

lemma find?_eq_none_iff : find? table h = none ↔ h ∉ table.map (·.1) := by
  rw [find?, Option.map_eq_none_iff, List.find?_eq_none]
  constructor
  · intro hnone hmem
    obtain ⟨entry, hentry, rfl⟩ := List.mem_map.mp hmem
    exact hnone entry hentry (by simp)
  · intro hnot entry hentry heq
    exact hnot (List.mem_map.mpr ⟨entry, hentry, by simpa using heq⟩)

/-- In a table with distinct handles, finding an entry is being told of it. -/
lemma find?_eq_some_iff (hnodup : (table.map (·.1)).Nodup) :
    find? table h = some x ↔ (h, x) ∈ table := by
  refine ⟨mem_of_find?_eq_some, fun hmem => ?_⟩
  cases hfound : find? table h with
  | none =>
    exact absurd (List.mem_map.mpr ⟨(h, x), hmem, rfl⟩) (find?_eq_none_iff.mp hfound)
  | some y =>
    have heq : (h, y) = (h, x) :=
      List.inj_on_of_nodup_map hnodup (mem_of_find?_eq_some hfound) hmem rfl
    rw [(Prod.mk.inj heq).2]

lemma mem_erase {entry : Nat × α} : entry ∈ erase table h ↔ entry ∈ table ∧ entry.1 ≠ h := by
  simp [erase]

lemma mem_handles_erase : k ∈ (erase table h).map (·.1) ↔ k ∈ table.map (·.1) ∧ k ≠ h := by
  simp only [List.mem_map, mem_erase]
  constructor
  · rintro ⟨entry, ⟨hmem, hne⟩, rfl⟩
    exact ⟨⟨entry, hmem, rfl⟩, hne⟩
  · rintro ⟨⟨entry, hmem, rfl⟩, hne⟩
    exact ⟨entry, ⟨hmem, hne⟩, rfl⟩

lemma nodup_handles_erase (hnodup : (table.map (·.1)).Nodup) :
    ((erase table h).map (·.1)).Nodup :=
  hnodup.sublist (List.filter_sublist.map _)

@[simp] lemma erase_erase : erase (erase table h) h = erase table h := by
  simp [erase, List.filter_filter]

@[simp] lemma put_erase : put (erase table h) h x = put table h x := by
  rw [put, put, erase_erase]

lemma mem_put {entry : Nat × α} :
    entry ∈ put table h x ↔ entry = (h, x) ∨ entry ∈ table ∧ entry.1 ≠ h := by
  rw [put, List.mem_append, mem_erase, List.mem_singleton, or_comm]

lemma mem_handles_put : k ∈ (put table h x).map (·.1) ↔ k = h ∨ k ∈ table.map (·.1) := by
  rw [put, List.map_append, List.mem_append, mem_handles_erase]
  simp only [List.map_cons, List.map_nil, List.mem_singleton]
  by_cases hk : k = h <;> simp [hk]

lemma nodup_handles_put (hnodup : (table.map (·.1)).Nodup) :
    ((put table h x).map (·.1)).Nodup := by
  rw [put, List.map_append, List.nodup_append]
  refine ⟨nodup_handles_erase hnodup, by simp, ?_⟩
  rintro k hk _ hh rfl
  exact (mem_handles_erase.mp hk).2 (by simpa using hh)

@[simp] lemma find?_put_self : find? (put table h x) h = some x := by
  have hnone : (erase table h).find? (fun entry => entry.1 == h) = none := by
    rw [List.find?_eq_none]
    intro entry hentry
    simpa using (mem_erase.mp hentry).2
  rw [find?, put, List.find?_append, hnone]
  simp

lemma find?_erase_of_ne (hne : k ≠ h) : find? (erase table h) k = find? table k := by
  rw [find?, find?, erase, List.find?_filter]
  congr 1
  refine congrArg (fun p => List.find? p table) (funext fun entry => ?_)
  by_cases hk : entry.1 = k
  · simp [hk, hne]
  · simp [hk]

lemma find?_put_of_ne (hne : k ≠ h) : find? (put table h x) k = find? table k := by
  have herase : find? (erase table h) k = find? table k := find?_erase_of_ne hne
  rw [← herase, find?, find?, put, List.find?_append]
  have hlast : [(h, x)].find? (fun entry => entry.1 == k) = none := by
    simp [Ne.symm hne]
  rw [hlast, Option.or_none]

end Tables

namespace Agenda

variable {τ κ : Type} {a : Agenda τ κ} {h k : Nat} {e f : Event τ κ}

/-- The queue and the table of events hold the same events. -/
structure Linked (a : Agenda τ κ) : Prop where
  handles_nodup : (a.events.map (·.1)).Nodup
  orders_nodup : (a.queue.map (·.order)).Nodup
  mem_queue_iff : ∀ e, e ∈ a.queue ↔ (e.handle, e) ∈ a.events
  handle_eq : ∀ entry ∈ a.events, entry.2.handle = entry.1
  handle_lt : ∀ entry ∈ a.events, entry.1 < a.nextHandle
  order_lt : ∀ e ∈ a.queue, e.order < a.nextOrder

/-- The two hold the same events, and every repeating one has its interval. -/
structure Consistent (a : Agenda τ κ) : Prop extends Linked a where
  interval_of_again : ∀ e ∈ a.queue, e.action = .again →
    ∃ interval, find? a.intervals e.handle = some interval
  interval_lt : ∀ entry ∈ a.intervals, entry.1 < a.nextHandle
  intervals_nodup : (a.intervals.map (·.1)).Nodup

/-- Whether a handle's timer is waiting. -/
def Pending (a : Agenda τ κ) (h : Nat) : Prop := h ∈ a.events.map (·.1)

instance (a : Agenda τ κ) (h : Nat) : Decidable (a.Pending h) :=
  inferInstanceAs (Decidable (h ∈ a.events.map (·.1)))

/-! ## Reading a linked agenda -/

/-- The table leads from a handle to the one event of the queue that is its own. -/
lemma Linked.find?_events_iff (l : a.Linked) :
    find? a.events h = some e ↔ e ∈ a.queue ∧ e.handle = h := by
  rw [find?_eq_some_iff l.handles_nodup]
  constructor
  · intro hmem
    have hh : e.handle = h := l.handle_eq _ hmem
    exact ⟨(l.mem_queue_iff e).mpr (hh ▸ hmem), hh⟩
  · rintro ⟨hmem, rfl⟩
    exact (l.mem_queue_iff e).mp hmem

lemma Linked.find?_handle (l : a.Linked) (he : e ∈ a.queue) :
    find? a.events e.handle = some e := l.find?_events_iff.mpr ⟨he, rfl⟩

/-- Two events of the queue with one handle are the same. -/
lemma Linked.eq_of_handle_eq (l : a.Linked) (he : e ∈ a.queue) (hf : f ∈ a.queue)
    (heq : e.handle = f.handle) : e = f := by
  have hfe := l.find?_handle he
  rw [heq, l.find?_handle hf] at hfe
  exact (Option.some.inj hfe).symm

lemma Linked.eq_of_order_eq (l : a.Linked) (he : e ∈ a.queue) (hf : f ∈ a.queue)
    (heq : e.order = f.order) : e = f :=
  List.inj_on_of_nodup_map l.orders_nodup he hf heq

lemma Linked.pending_iff (l : a.Linked) : a.Pending h ↔ ∃ e ∈ a.queue, e.handle = h := by
  rw [Pending, List.mem_map]
  constructor
  · rintro ⟨⟨k, e⟩, hmem, rfl⟩
    have hk : e.handle = k := l.handle_eq _ hmem
    exact ⟨e, (l.mem_queue_iff e).mpr (hk ▸ hmem), hk⟩
  · rintro ⟨e, he, rfl⟩
    exact ⟨(e.handle, e), (l.mem_queue_iff e).mp he, rfl⟩

lemma Linked.lt_of_pending (l : a.Linked) (hp : a.Pending h) : h < a.nextHandle := by
  obtain ⟨entry, hmem, rfl⟩ := List.mem_map.mp hp
  exact l.handle_lt entry hmem

lemma Linked.queue_nodup (l : a.Linked) : a.queue.Nodup := List.Nodup.of_map _ l.orders_nodup

/-- The table lists the events of the queue, in an order of its own. -/
lemma Linked.events_perm_queue (l : a.Linked) : (a.events.map (·.2)).Perm a.queue := by
  have hinj : ∀ x ∈ a.events, ∀ y ∈ a.events, x.2 = y.2 → x = y := by
    intro x hx y hy hxy
    refine Prod.ext ?_ hxy
    rw [← l.handle_eq x hx, ← l.handle_eq y hy, hxy]
  have hnodup : (a.events.map (·.2)).Nodup :=
    (List.Nodup.of_map _ l.handles_nodup).map_on hinj
  rw [List.perm_ext_iff_of_nodup hnodup l.queue_nodup]
  intro e
  rw [l.mem_queue_iff, List.mem_map]
  constructor
  · rintro ⟨entry, hmem, rfl⟩
    rw [l.handle_eq entry hmem]
    exact hmem
  · intro hmem
    exact ⟨(e.handle, e), hmem, rfl⟩

/-- The number of timers that are waiting is the number of events in the queue. -/
theorem Linked.pending_eq_length (l : a.Linked) : a.pending = a.queue.length := by
  rw [pending, ← l.events_perm_queue.length_eq, List.length_map]

/-- A waiting timer has one event. -/
lemma Linked.length_filter_handle (l : a.Linked) (hp : a.Pending h) :
    (a.queue.filter (·.handle == h)).length = 1 := by
  obtain ⟨e, he, rfl⟩ := l.pending_iff.mp hp
  have hone : ∀ f, f ∈ a.queue.filter (·.handle == e.handle) ↔ f ∈ [e] := by
    intro f
    rw [List.mem_filter, beq_iff_eq, List.mem_singleton]
    constructor
    · rintro ⟨hf, heq⟩
      exact l.eq_of_handle_eq hf he heq
    · rintro rfl
      exact ⟨he, rfl⟩
  have hperm := (List.perm_ext_iff_of_nodup (l.queue_nodup.filter _) (List.nodup_singleton e)).mpr
    hone
  rw [hperm.length_eq, List.length_singleton]

/-! ## Primitive changes

What entering an event, and taking one off, do to the queue. -/

section Enter

variable [Add τ] {d : τ} {action : Action κ}

lemma mem_queue_enter :
    f ∈ (a.enter d h action).queue ↔
      f ∈ a.queue ∨ f = ⟨a.now + d, a.nextOrder, h, action⟩ := by
  rw [enter, List.mem_append, List.mem_singleton]

lemma pending_enter_iff : (a.enter d h action).Pending k ↔ k = h ∨ a.Pending k := by
  rw [Pending, enter, mem_handles_put, Pending]

/-- An event that is entered under a handle without one keeps the agenda linked. -/
lemma Linked.enter (l : a.Linked) (hfree : ¬ a.Pending h) (hlt : h < a.nextHandle) :
    (a.enter d h action).Linked where
  handles_nodup := nodup_handles_put l.handles_nodup
  orders_nodup := by
    rw [Agenda.enter, List.map_append, List.nodup_append]
    refine ⟨l.orders_nodup, by simp, ?_⟩
    intro order horder last hlast heq
    obtain ⟨e, he, rfl⟩ := List.mem_map.mp horder
    have hlt := l.order_lt e he
    simp only [List.map_cons, List.map_nil, List.mem_singleton] at hlast
    omega
  mem_queue_iff := by
    intro e
    rw [mem_queue_enter, Agenda.enter, mem_put, l.mem_queue_iff e]
    constructor
    · rintro (hmem | rfl)
      · refine Or.inr ⟨hmem, ?_⟩
        rintro rfl
        exact hfree (List.mem_map.mpr ⟨_, hmem, rfl⟩)
      · exact Or.inl rfl
    · rintro (heq | ⟨hmem, -⟩)
      · exact Or.inr (Prod.mk.inj heq).2
      · exact Or.inl hmem
  handle_eq := by
    intro entry hentry
    rcases mem_put.mp hentry with rfl | ⟨hmem, -⟩
    · rfl
    · exact l.handle_eq entry hmem
  handle_lt := by
    intro entry hentry
    rcases mem_put.mp hentry with rfl | ⟨hmem, -⟩
    · exact hlt
    · exact l.handle_lt entry hmem
  order_lt := by
    intro e he
    rcases mem_queue_enter.mp he with hmem | rfl
    · exact Nat.lt_succ_of_lt (l.order_lt e hmem)
    · exact Nat.lt_succ_self _

end Enter

section Remove

@[simp] lemma removeEvent_now : (a.removeEvent h).now = a.now := by
  unfold removeEvent; split <;> rfl

@[simp] lemma removeEvent_intervals : (a.removeEvent h).intervals = a.intervals := by
  unfold removeEvent; split <;> rfl

@[simp] lemma removeEvent_nextHandle : (a.removeEvent h).nextHandle = a.nextHandle := by
  unfold removeEvent; split <;> rfl

@[simp] lemma removeEvent_nextOrder : (a.removeEvent h).nextOrder = a.nextOrder := by
  unfold removeEvent; split <;> rfl

@[simp] lemma removeEvent_deadline : (a.removeEvent h).deadline = a.deadline := by
  unfold removeEvent; split <;> rfl

@[simp] lemma removeEvent_closed : (a.removeEvent h).closed = a.closed := by
  unfold removeEvent; split <;> rfl

/-- Taking a handle's event off leaves the table without the handle. -/
lemma removeEvent_events : (a.removeEvent h).events = erase a.events h := by
  unfold removeEvent
  cases hfound : find? a.events h with
  | none =>
    -- a table without the handle is what it is without it
    refine (List.filter_eq_self.mpr fun entry hentry => ?_).symm
    have hne : entry.1 ≠ h := by
      rintro rfl
      exact find?_eq_none_iff.mp hfound (List.mem_map.mpr ⟨entry, hentry, rfl⟩)
    simpa using hne
  | some e => rfl

lemma pending_removeEvent_iff : (a.removeEvent h).Pending k ↔ a.Pending k ∧ k ≠ h := by
  rw [Pending, removeEvent_events, mem_handles_erase, Pending]

/-- In a linked agenda, only the handle's own event leaves the queue. -/
lemma Linked.mem_queue_removeEvent (l : a.Linked) :
    f ∈ (a.removeEvent h).queue ↔ f ∈ a.queue ∧ f.handle ≠ h := by
  unfold removeEvent
  cases hfound : find? a.events h with
  | none =>
    refine ⟨fun hf => ⟨hf, ?_⟩, fun hf => hf.1⟩
    rintro rfl
    rw [l.find?_handle hf] at hfound
    cases hfound
  | some e =>
    obtain ⟨he, rfl⟩ := l.find?_events_iff.mp hfound
    simp only [List.mem_filter, bne_iff_ne, ne_eq, and_congr_right_iff]
    intro hf
    rw [not_iff_not]
    exact ⟨fun heq => by rw [l.eq_of_order_eq hf he heq],
      fun heq => by rw [l.eq_of_handle_eq hf he heq]⟩

lemma removeEvent_queue_sublist : (a.removeEvent h).queue.Sublist a.queue := by
  unfold removeEvent
  split
  · exact List.Sublist.refl _
  · exact List.filter_sublist

/-- With a repeating timer, an event and an interval are taken off, and nothing is added. -/
lemma stop_subset {k : Nat} :
    ({ a with intervals := erase a.intervals k }.removeEvent h).queue ⊆ a.queue ∧
      ({ a with intervals := erase a.intervals k }.removeEvent h).intervals ⊆ a.intervals := by
  refine ⟨removeEvent_queue_sublist.subset, fun entry hentry => ?_⟩
  rw [removeEvent_intervals] at hentry
  exact (mem_erase.mp hentry).1

lemma Linked.removeEvent (l : a.Linked) : (a.removeEvent h).Linked where
  handles_nodup := by
    rw [removeEvent_events]
    exact nodup_handles_erase l.handles_nodup
  orders_nodup := l.orders_nodup.sublist (removeEvent_queue_sublist.map _)
  mem_queue_iff := by
    intro e
    rw [l.mem_queue_removeEvent, removeEvent_events, mem_erase, l.mem_queue_iff]
  handle_eq := by
    intro entry hentry
    rw [removeEvent_events] at hentry
    exact l.handle_eq entry (mem_erase.mp hentry).1
  handle_lt := by
    intro entry hentry
    rw [removeEvent_events] at hentry
    rw [removeEvent_nextHandle]
    exact l.handle_lt entry (mem_erase.mp hentry).1
  order_lt := by
    intro e he
    rw [removeEvent_nextOrder]
    exact l.order_lt e (removeEvent_queue_sublist.subset he)

/-- In a linked agenda, taking an event off takes it out of the queue and nothing else. -/
lemma Linked.queue_perm (l : a.Linked) (he : e ∈ a.queue) :
    a.queue.Perm (e :: (a.removeEvent e.handle).queue) := by
  have hnot : e ∉ (a.removeEvent e.handle).queue := fun hmem =>
    (l.mem_queue_removeEvent.mp hmem).2 rfl
  rw [List.perm_ext_iff_of_nodup l.queue_nodup
    (List.nodup_cons.mpr ⟨hnot, l.removeEvent.queue_nodup⟩)]
  intro f
  rw [List.mem_cons, l.mem_queue_removeEvent]
  constructor
  · intro hf
    by_cases heq : f.handle = e.handle
    · exact Or.inl (l.eq_of_handle_eq hf he heq)
    · exact Or.inr ⟨hf, heq⟩
  · rintro (rfl | ⟨hf, -⟩)
    · exact he
    · exact hf

end Remove

/-! ## The intervals of repeating events -/

section Intervals

/-- Changes to neither table nor queue keep an agenda consistent. -/
lemma Consistent.frame {b : Agenda τ κ} (c : a.Consistent) (hqueue : b.queue = a.queue)
    (hevents : b.events = a.events) (hintervals : b.intervals = a.intervals)
    (hOrder : b.nextOrder = a.nextOrder) (hHandle : a.nextHandle ≤ b.nextHandle) :
    b.Consistent where
  handles_nodup := hevents ▸ c.handles_nodup
  orders_nodup := hqueue ▸ c.orders_nodup
  mem_queue_iff := by rw [hqueue, hevents]; exact c.mem_queue_iff
  handle_eq := hevents ▸ c.handle_eq
  handle_lt := fun entry hentry => Nat.lt_of_lt_of_le (c.handle_lt entry (hevents ▸ hentry)) hHandle
  order_lt := by rw [hqueue, hOrder]; exact c.order_lt
  interval_of_again := by rw [hqueue, hintervals]; exact c.interval_of_again
  interval_lt := fun entry hentry =>
    Nat.lt_of_lt_of_le (c.interval_lt entry (hintervals ▸ hentry)) hHandle
  intervals_nodup := hintervals ▸ c.intervals_nodup

lemma Consistent.enter [Add τ] {d : τ} {action : Action κ} (c : a.Consistent)
    (hfree : ¬ a.Pending h) (hlt : h < a.nextHandle)
    (hinterval : action = .again → ∃ interval, find? a.intervals h = some interval) :
    (a.enter d h action).Consistent where
  toLinked := c.toLinked.enter hfree hlt
  interval_of_again := by
    intro e he haction
    rcases mem_queue_enter.mp he with hmem | rfl
    · exact c.interval_of_again e hmem haction
    · exact hinterval haction
  interval_lt := c.interval_lt
  intervals_nodup := c.intervals_nodup

lemma Consistent.removeEvent (c : a.Consistent) : (a.removeEvent h).Consistent where
  toLinked := c.toLinked.removeEvent
  interval_of_again := by
    intro e he haction
    rw [removeEvent_intervals]
    exact c.interval_of_again e (removeEvent_queue_sublist.subset he) haction
  interval_lt := by
    rw [removeEvent_intervals, removeEvent_nextHandle]
    exact c.interval_lt
  intervals_nodup := by
    rw [removeEvent_intervals]
    exact c.intervals_nodup

lemma Consistent.put_interval (c : a.Consistent) (interval : Interval τ κ)
    (hlt : h < a.nextHandle) :
    { a with intervals := put a.intervals h interval }.Consistent where
  toLinked := ⟨c.handles_nodup, c.orders_nodup, c.mem_queue_iff, c.handle_eq, c.handle_lt,
    c.order_lt⟩
  interval_of_again := by
    intro e he haction
    by_cases heq : e.handle = h
    · exact ⟨interval, heq ▸ find?_put_self⟩
    · obtain ⟨old, hold⟩ := c.interval_of_again e he haction
      exact ⟨old, (find?_put_of_ne heq).trans hold⟩
  interval_lt := by
    intro entry hentry
    rcases mem_put.mp hentry with rfl | ⟨hmem, -⟩
    · exact hlt
    · exact c.interval_lt entry hmem
  intervals_nodup := nodup_handles_put c.intervals_nodup

/-- An interval that is forgotten together with its event is missed by no other event. -/
lemma Consistent.erase_interval (c : a.Consistent) :
    ({ a with intervals := erase a.intervals h }.removeEvent h).Consistent := by
  have l : { a with intervals := erase a.intervals h }.Linked :=
    ⟨c.handles_nodup, c.orders_nodup, c.mem_queue_iff, c.handle_eq, c.handle_lt, c.order_lt⟩
  refine { l.removeEvent with
    interval_of_again := ?_, interval_lt := ?_, intervals_nodup := ?_ }
  · intro e he haction
    obtain ⟨hmem, hne⟩ := l.mem_queue_removeEvent.mp he
    obtain ⟨interval, hinterval⟩ := c.interval_of_again e hmem haction
    refine ⟨interval, ?_⟩
    rw [removeEvent_intervals]
    exact (find?_erase_of_ne hne).trans hinterval
  · intro entry hentry
    rw [removeEvent_intervals] at hentry
    rw [removeEvent_nextHandle]
    exact c.interval_lt entry (mem_erase.mp hentry).1
  · rw [removeEvent_intervals]
    exact nodup_handles_erase c.intervals_nodup

end Intervals

/-! ## Closing -/

/-- Taking the events of several handles off. -/
lemma Linked.foldl_removeEvent (handles : List Nat) : ∀ {a : Agenda τ κ}, a.Linked →
    (handles.foldl Agenda.removeEvent a).Linked ∧
      ∀ e, e ∈ (handles.foldl Agenda.removeEvent a).queue ↔
        e ∈ a.queue ∧ e.handle ∉ handles := by
  induction handles with
  | nil => exact fun l => ⟨l, by simp⟩
  | cons h rest ih =>
    intro a l
    obtain ⟨hlinked, hqueue⟩ := ih (l.removeEvent (h := h))
    refine ⟨hlinked, fun e => ?_⟩
    rw [List.foldl_cons, hqueue e, l.mem_queue_removeEvent, List.mem_cons, not_or, and_assoc]

lemma foldl_removeEvent_frame (handles : List Nat) : ∀ a : Agenda τ κ,
    { handles.foldl removeEvent a with queue := a.queue, events := a.events } = a := by
  induction handles with
  | nil => exact fun a => rfl
  | cons h rest ih =>
    intro a
    have hrest := ih (a.removeEvent h)
    have hone : { a.removeEvent h with queue := a.queue, events := a.events } = a := by
      unfold removeEvent; split <;> rfl
    rw [List.foldl_cons]
    calc { rest.foldl removeEvent (a.removeEvent h) with queue := a.queue, events := a.events }
        = { ({ rest.foldl removeEvent (a.removeEvent h) with
                queue := (a.removeEvent h).queue, events := (a.removeEvent h).events }
              : Agenda τ κ) with queue := a.queue, events := a.events } := rfl
      _ = { a.removeEvent h with queue := a.queue, events := a.events } := by rw [hrest]
      _ = a := hone

@[simp] lemma close_closed : a.close.closed = true := by
  have hframe := foldl_removeEvent_frame (a.events.map (·.1))
    { a with closed := true, intervals := [] }
  exact congrArg Agenda.closed hframe

/-- An agenda on the way to being closed: the first events are cancelled already. -/
def closing (a : Agenda τ κ) (n : Nat) : Agenda τ κ :=
  ((a.events.map (·.1)).take n).foldl removeEvent { a with closed := true, intervals := [] }

lemma closing_length : a.closing a.events.length = a.close := by
  rw [closing, close, List.take_of_length_le (by simp)]

/-- Each stage of closing keeps the queue and the table of events together. -/
lemma Linked.closing (l : a.Linked) (n : Nat) : (a.closing n).Linked ∧
    ∀ e, e ∈ (a.closing n).queue ↔ e ∈ a.queue ∧ e.handle ∉ (a.events.map (·.1)).take n := by
  have hl : { a with closed := true, intervals := [] }.Linked :=
    ⟨l.handles_nodup, l.orders_nodup, l.mem_queue_iff, l.handle_eq, l.handle_lt, l.order_lt⟩
  exact Linked.foldl_removeEvent _ hl

/-- A closed agenda has nothing left. -/
lemma Linked.close_eq (l : a.Linked) :
    a.close = { a with closed := true, intervals := [], queue := [], events := [] } := by
  obtain ⟨hlinked, hqueue⟩ := l.closing a.events.length
  rw [closing_length, List.take_of_length_le (by simp)] at hqueue
  rw [closing_length] at hlinked
  have hempty : a.close.queue = [] := by
    refine List.eq_nil_iff_forall_not_mem.mpr fun e he => ?_
    obtain ⟨hmem, hnot⟩ := (hqueue e).mp he
    exact hnot (List.mem_map.mpr ⟨_, (l.mem_queue_iff e).mp hmem, rfl⟩)
  have hnone : a.close.events = [] := by
    refine List.eq_nil_of_length_eq_zero ?_
    have hlen := hlinked.pending_eq_length
    rw [pending, hempty] at hlen
    exact hlen
  have hframe := foldl_removeEvent_frame (a.events.map (·.1))
    { a with closed := true, intervals := [] }
  have hclose : a.close = { a.close with queue := [], events := [] } := by
    rw [← hempty, ← hnone]
  rw [hclose]
  calc ({ a.close with queue := [], events := [] } : Agenda τ κ)
      = { ({ a.close with queue := a.queue, events := a.events } : Agenda τ κ) with
            queue := [], events := [] } := rfl
    _ = _ := by rw [show ({ a.close with queue := a.queue, events := a.events } : Agenda τ κ)
          = { a with closed := true, intervals := [] } from hframe]

end Agenda

end SnippetRunner.Timer
