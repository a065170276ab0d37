import Mathlib.Data.List.Count
import SnippetRunner.Proofs.Timer.Change

/-!
# The life of a timer

No timer is lost, runs twice or comes back. A handle that was given out is followed through the
rest of a history, over all the operations that callers and callbacks perform.

* A timer that runs once is waiting, was started, or was taken off, and exactly one of the three
  (`Leads.tally`). Each step moves it along, or leaves it where it is.
* A repeating timer keeps one event in the queue (`Leads.keeps_event`).
* A handle without an event never gets one again (`Leads.never_started`).
-/

namespace SnippetRunner.Timer

open Agenda

variable {τ κ ε μ α : Type}

/-! ## What a deed does to a timer -/

namespace Deed

/-- The handle that a registration was answered with. -/
def issued? : Deed τ κ ε → Option Nat
  | .asked _ (.handle n) => some n
  | _ => none

/-- The handle that a timer to run once was given. -/
def issuedLater? : Deed τ κ ε → Option Nat
  | .asked (.callLater _ _) (.handle n) => some n
  | _ => none

/-- The handle that a repeating timer was given. -/
def issuedEvery? : Deed τ κ ε → Option Nat
  | .asked (.callEvery _ _) (.handle n) => some n
  | _ => none

/-- The handle whose callback is started. -/
def started? : Deed τ κ ε → Option Nat
  | .started event _ => some event.handle
  | _ => none

/-- Whether a handle is cancelled, in either way. -/
def cancels (h : Nat) : Deed τ κ ε → Bool
  | .asked (.cancelCall (.handle n)) _ => n == h
  | .asked (.cancelEvery (.handle n)) _ => n == h
  | _ => false

/-- Whether the agenda is closed. -/
def closes : Deed τ κ ε → Bool
  | .asked .close _ => true
  | _ => false

lemma issued?_of_issuedLater? {deed : Deed τ κ ε} {h : Nat} (hlater : deed.issuedLater? = some h) :
    deed.issued? = some h ∧ deed.issuedEvery? = none ∧ deed.started? = none := by
  unfold issuedLater? at hlater
  split at hlater
  · exact ⟨hlater, rfl, rfl⟩
  · cases hlater

lemma issued?_of_issuedEvery? {deed : Deed τ κ ε} {h : Nat} (hevery : deed.issuedEvery? = some h) :
    deed.issued? = some h ∧ deed.issuedLater? = none := by
  unfold issuedEvery? at hevery
  split at hevery
  · exact ⟨hevery, rfl⟩
  · cases hevery

lemma not_cancels_of_isRegistration {op : Op τ κ} (registration : op.IsRegistration)
    (reply : Reply ε) (h : Nat) :
    (Deed.asked op reply).cancels h = false ∧ (Deed.asked op reply).closes = false := by
  cases op with
  | callLater delay target => exact ⟨rfl, rfl⟩
  | callEvery period target => exact ⟨rfl, rfl⟩
  | _ => exact registration.elim

lemma not_cancels_of_foreign {op : Op τ κ} {key : Key} (foreign : ∀ n, key ≠ .handle n)
    (asks : op = .cancelCall key ∨ op = .cancelEvery key) (reply : Reply ε) (h : Nat) :
    (Deed.asked op reply).cancels h = false ∧ (Deed.asked op reply).closes = false := by
  cases key with
  | handle n => exact absurd rfl (foreign n)
  | _ => rcases asks with rfl | rfl <;> exact ⟨rfl, rfl⟩

end Deed

/-- Whether a callback of a handle is started. -/
def Mark.starts (h : Nat) (mark : Mark τ κ ε) : Bool := mark.deed.started? == some h

/-- Whether a waiting timer is taken off, by cancelling its handle or by closing. -/
def Mark.removes (h : Nat) (mark : Mark τ κ ε) : Bool :=
  (mark.deed.cancels h || mark.deed.closes) &&
    (decide (mark.before.Pending h) && !decide (mark.after.Pending h))

section Steps

variable [Add τ] [Sub τ] [LT τ] [DecidableLT τ] [Zero τ] {a b : Agenda τ κ} {deed : Deed τ κ ε}
  {mark : Mark τ κ ε} {log : List (Mark τ κ ε)} {h : Nat}

/-! ## One step -/

lemma Change.nextHandle_le (change : Change a deed b) : a.nextHandle ≤ b.nextHandle := by
  cases change with
  | refused registration next => rcases next with rfl | rfl <;> simp
  | later | every => exact Nat.le_succ _
  | cancelled | stopped | ranOnce | ranAgain => simp [enter]
  | _ => exact le_rfl

/-- A timer that was registered goes on waiting unless it is cancelled, the agenda is closed or
its one callback is started. -/
lemma Change.pending_iff (c : a.Consistent) (change : Change a deed b) (hh : h < a.nextHandle) :
    b.Pending h ↔ a.Pending h ∧ deed.cancels h = false ∧ deed.closes = false ∧
      ∀ event callback, deed = .started event callback → event.handle = h →
        event.action = .again := by
  cases change with
  | @refused op refusal n registration next =>
    obtain ⟨hcancels, hcloses⟩ :=
      Deed.not_cancels_of_isRegistration registration (.refused refusal : Reply ε) h
    simp [hcancels, hcloses, Pending]
  | later isOpen =>
    rw [pending_enter_iff]
    simp [Deed.cancels, Deed.closes, Pending, hh.ne]
  | every isOpen =>
    rw [pending_enter_iff]
    simp [Deed.cancels, Deed.closes, Pending, hh.ne]
  | @cancelled handle =>
    rw [pending_removeEvent_iff]
    simp [Deed.cancels, Deed.closes, ne_comm]
  | @stopped handle =>
    rw [pending_removeEvent_iff]
    simp [Deed.cancels, Deed.closes, Pending, ne_comm]
  | @unknown op reply key foreign asks answer =>
    obtain ⟨hcancels, hcloses⟩ := Deed.not_cancels_of_foreign foreign asks reply h
    simp [hcancels, hcloses]
  | closed => simp [Deed.closes, Pending]
  | advanced => simp [Deed.cancels, Deed.closes, Pending]
  | began deadline => simp [Deed.cancels, Deed.closes, Pending]
  | waited first early => simp [Deed.cancels, Deed.closes, Pending]
  | @ranOnce event callback first due action =>
    rw [pending_removeEvent_iff]
    simp [Deed.cancels, Deed.closes, action, ne_comm]
  | @ranAgain event interval first due action found =>
    have hevent : a.Pending event.handle :=
      c.pending_iff.mpr ⟨event, mem_of_earliest? first, rfl⟩
    rw [pending_enter_iff, pending_removeEvent_iff]
    by_cases heq : h = event.handle
    · simp [Deed.cancels, Deed.closes, heq, hevent, action]
    · simp [Deed.cancels, Deed.closes, heq, Ne.symm heq]

/-- The callback that is started is that of the first event, and the event is due. -/
lemma Change.of_started {event : Event τ κ} {callback : κ}
    (change : Change a (.started event callback : Deed τ κ ε) b) :
    earliest? a.queue = some event ∧ ¬ a.now < event.due := by
  cases change with
  | ranOnce first due action => exact ⟨first, due⟩
  | ranAgain first due action found => exact ⟨first, due⟩

/-- Only a waiting timer is started. -/
lemma Change.pending_of_started (c : a.Consistent) (change : Change a deed b)
    (hstarted : deed.started? = some h) : a.Pending h := by
  cases deed with
  | started event callback =>
    exact c.pending_iff.mpr
      ⟨event, mem_of_earliest? change.of_started.1, Option.some.inj hstarted⟩
  | _ => cases hstarted

/-- An event of a timer that was registered does what the timer's events did before. -/
lemma Change.action_eq (change : Change a deed b) {e : Event τ κ} (he : e ∈ b.queue)
    (hh : e.handle < a.nextHandle) :
    ∃ f ∈ a.queue, f.handle = e.handle ∧ f.action = e.action := by
  cases change with
  | later isOpen =>
    rcases mem_queue_enter.mp he with hmem | rfl
    · exact ⟨e, hmem, rfl, rfl⟩
    · exact absurd hh (lt_irrefl _)
  | every isOpen =>
    rcases mem_queue_enter.mp he with hmem | rfl
    · exact ⟨e, hmem, rfl, rfl⟩
    · exact absurd hh (lt_irrefl _)
  | closed => simp at he
  | cancelled => exact ⟨e, removeEvent_queue_sublist.subset he, rfl, rfl⟩
  | stopped => exact ⟨e, stop_subset.1 he, rfl, rfl⟩
  | ranOnce first due action => exact ⟨e, removeEvent_queue_sublist.subset he, rfl, rfl⟩
  | @ranAgain event interval first due action found =>
    rcases mem_queue_enter.mp he with hmem | rfl
    · exact ⟨e, removeEvent_queue_sublist.subset hmem, rfl, rfl⟩
    · exact ⟨event, mem_of_earliest? first, rfl, action⟩
  | _ => exact ⟨e, he, rfl, rfl⟩

/-- A registration gives out the next handle, and its timer waits. What the timer's event does is
what was asked for. -/
lemma Change.of_issued (c : a.Consistent) (change : Change a deed b)
    (hissued : deed.issued? = some h) :
    h = a.nextHandle ∧ b.nextHandle = h + 1 ∧ b.Pending h ∧
      ∀ e ∈ b.queue, e.handle = h →
        (deed.issuedEvery? = none ∧ ∃ callback, e.action = .once callback) ∨
          (deed.issuedLater? = none ∧ e.action = .again) := by
  have hfresh : ∀ e ∈ a.queue, e.handle ≠ a.nextHandle := fun e he heq => by
    have := c.lt_of_pending (c.pending_iff.mpr ⟨e, he, heq⟩)
    omega
  cases change with
  | later isOpen =>
    obtain rfl := Option.some.inj hissued
    refine ⟨rfl, rfl, pending_enter_iff.mpr (Or.inl rfl), fun e he heq => Or.inl ⟨rfl, ?_⟩⟩
    rcases mem_queue_enter.mp he with hold | rfl
    · exact absurd heq (hfresh e hold)
    · exact ⟨_, rfl⟩
  | every isOpen =>
    obtain rfl := Option.some.inj hissued
    refine ⟨rfl, rfl, pending_enter_iff.mpr (Or.inl rfl), fun e he heq => Or.inr ⟨rfl, ?_⟩⟩
    rcases mem_queue_enter.mp he with hold | rfl
    · exact absurd heq (hfresh e hold)
    · rfl
  | unknown foreign asks answer =>
    rcases answer with rfl | ⟨bad, rfl⟩ <;> simp [Deed.issued?] at hissued
  | _ => simp [Deed.issued?] at hissued

lemma Change.closed_empty (change : Change a deed b) (hclosed : a.closed = true)
    (hempty : a.queue = []) : b.closed = true ∧ b.queue = [] := by
  have hremoved : ∀ {a : Agenda τ κ} {h : Nat}, a.queue = [] → (a.removeEvent h).queue = [] :=
    fun h => List.sublist_nil.mp (h ▸ removeEvent_queue_sublist)
  cases change with
  | later isOpen => rw [hclosed] at isOpen; cases isOpen
  | every isOpen => rw [hclosed] at isOpen; cases isOpen
  | cancelled => exact ⟨by simpa using hclosed, hremoved hempty⟩
  | stopped => exact ⟨by simpa using hclosed, hremoved hempty⟩
  | closed => exact ⟨rfl, rfl⟩
  | ranOnce first due action => rw [hempty] at first; cases first
  | ranAgain first due action found => rw [hempty] at first; cases first
  | _ => exact ⟨hclosed, hempty⟩

lemma Change.of_closes (change : Change a deed b) (hcloses : deed.closes = true) :
    b.closed = true ∧ b.queue = [] := by
  cases change with
  | closed => exact ⟨rfl, rfl⟩
  | @refused op refusal n registration next =>
    rw [(Deed.not_cancels_of_isRegistration registration _ 0).2] at hcloses
    cases hcloses
  | unknown foreign asks answer =>
    rw [(Deed.not_cancels_of_foreign foreign asks _ 0).2] at hcloses
    cases hcloses
  | _ => cases hcloses

/-! ## A timer that runs once -/

/-- Whether the events of a handle run once. -/
def RunsOnce (h : Nat) (a : Agenda τ κ) : Prop :=
  ∀ e ∈ a.queue, e.handle = h → ∃ callback, e.action = .once callback

omit [Add τ] [Sub τ] [LT τ] [DecidableLT τ] [Zero τ] in
lemma Mark.removes_iff : mark.removes h = true ↔
    (mark.deed.cancels h = true ∨ mark.deed.closes = true) ∧
      mark.before.Pending h ∧ ¬ mark.after.Pending h := by
  simp [Mark.removes]

/-- In one step, a waiting timer goes on waiting, is started or is taken off; one that does not
wait is neither started nor taken off. -/
lemma Change.tally (c : mark.before.Consistent)
    (change : Change mark.before mark.deed mark.after)
    (hh : h < mark.before.nextHandle) (honce : RunsOnce h mark.before) :
    (if mark.after.Pending h then 1 else 0) + (if mark.starts h then 1 else 0) +
      (if mark.removes h then 1 else 0) = if mark.before.Pending h then 1 else 0 := by
  have hafter := change.pending_iff c hh
  by_cases hbefore : mark.before.Pending h
  · cases hdeed : mark.deed with
    | started event callback =>
      rw [hdeed] at change hafter
      have hnever : mark.removes h = false := by
        simp [Mark.removes, hdeed, Deed.cancels, Deed.closes]
      by_cases heq : event.handle = h
      · -- the one event of the handle runs once, so the handle waits no longer
        obtain ⟨k, hk⟩ := honce event (mem_of_earliest? change.of_started.1) heq
        have hgone : ¬ mark.after.Pending h := fun hp => by
          have hagain := (hafter.mp hp).2.2.2 event callback rfl heq
          rw [hk] at hagain
          cases hagain
        simp [hbefore, hgone, hnever, Mark.starts, hdeed, Deed.started?, heq]
      · have hstays : mark.after.Pending h :=
          hafter.mpr ⟨hbefore, rfl, rfl, fun e k he hek => by
            obtain ⟨rfl, -⟩ := Deed.started.inj he
            exact absurd hek heq⟩
        simp [hbefore, hstays, hnever, Mark.starts, hdeed, Deed.started?, heq]
    | _ =>
      have hnone : mark.starts h = false := by simp [Mark.starts, hdeed, Deed.started?]
      -- no other deed starts a callback, so the timer waits on unless it is taken off
      by_cases hcancels : mark.deed.cancels h = true ∨ mark.deed.closes = true
      · have hgone : ¬ mark.after.Pending h := fun hp => by
          obtain ⟨-, hc, hc', -⟩ := hafter.mp hp
          simp [hc, hc'] at hcancels
        have hremoved := Mark.removes_iff.mpr ⟨hcancels, hbefore, hgone⟩
        simp [hbefore, hgone, hnone, hremoved]
      · have hstays : mark.after.Pending h := by
          rw [not_or, Bool.not_eq_true, Bool.not_eq_true] at hcancels
          exact hafter.mpr ⟨hbefore, hcancels.1, hcancels.2, by simp [hdeed]⟩
        have hnever : mark.removes h = false := by simp [Mark.removes, hstays]
        simp [hbefore, hstays, hnone, hnever]
  · have hgone : ¬ mark.after.Pending h := fun hp => hbefore (hafter.mp hp).1
    have hnone : mark.starts h = false := by
      rw [Mark.starts, beq_eq_false_iff_ne]
      exact fun hstarted => hbefore (change.pending_of_started c hstarted)
    have hnever : mark.removes h = false := by simp [Mark.removes, hbefore]
    simp [hbefore, hgone, hnone, hnever]

/-! ## Whole histories -/

/-- What is known at every point of a history that begins with a consistent agenda. -/
lemma Leads.step_induction {P : List (Mark τ κ ε) → Agenda τ κ → Prop} (c : a.Consistent)
    (start : P [] a)
    (step : ∀ log (mark : Mark τ κ ε), mark.before.Consistent →
      Change mark.before mark.deed mark.after → P log mark.before → P (log ++ [mark]) mark.after)
    (leads : Leads a log b) : b.Consistent ∧ P log b := by
  refine leads.induction (P := fun log a => a.Consistent ∧ P log a) ⟨c, start⟩ ?_
  rintro log mark ⟨hbefore, hlog⟩ hhappens
  have hchange := hhappens.change hbefore
  exact ⟨hchange.consistent hbefore, step log mark hbefore hchange hlog⟩

/-- Handles are given out in increasing order, so none is given out twice. -/
lemma Leads.issued (c : a.Consistent) (leads : Leads a log b) :
    (log.filterMap (·.deed.issued?)).Nodup ∧
      ∀ h ∈ log.filterMap (·.deed.issued?), h < b.nextHandle := by
  refine (leads.step_induction (P := fun log a => (log.filterMap (·.deed.issued?)).Nodup ∧
    ∀ h ∈ log.filterMap (·.deed.issued?), h < a.nextHandle) c (by simp) ?_).2
  rintro log mark hbefore change ⟨hnodup, hlt⟩
  have hlt' : ∀ h ∈ log.filterMap (·.deed.issued?), h < mark.after.nextHandle :=
    fun h hh => lt_of_lt_of_le (hlt h hh) change.nextHandle_le
  rw [List.filterMap_append]
  cases hissued : mark.deed.issued? with
  | none =>
    have hlast : [mark].filterMap (·.deed.issued?) = [] := by simp [hissued]
    rw [hlast, List.append_nil]
    exact ⟨hnodup, hlt'⟩
  | some n =>
    obtain ⟨hn, hnext, -, -⟩ := change.of_issued hbefore hissued
    have hlast : [mark].filterMap (·.deed.issued?) = [n] := by simp [hissued]
    rw [hlast]
    refine ⟨List.nodup_append.mpr ⟨hnodup, by simp, ?_⟩, ?_⟩
    · intro h hh k hk heq
      have := hlt h hh
      rw [List.mem_singleton] at hk
      omega
    · intro h hh
      rcases List.mem_append.mp hh with hold | hnew
      · exact hlt' h hold
      · rw [List.mem_singleton] at hnew
        omega

/-- A handle that has not been given out has neither been started nor taken off. -/
lemma Leads.untouched (c : a.Consistent) (leads : Leads a log b) (hh : b.nextHandle ≤ h) :
    log.countP (·.starts h) = 0 ∧ log.countP (·.removes h) = 0 := by
  have hall := (leads.step_induction (P := fun log a => a.nextHandle ≤ h →
    ∀ mark ∈ log, ¬ mark.starts h = true ∧ ¬ mark.removes h = true) c (by simp) ?_).2 hh
  · exact ⟨List.countP_eq_zero.mpr fun mark hmark => (hall mark hmark).1,
      List.countP_eq_zero.mpr fun mark hmark => (hall mark hmark).2⟩
  intro log mark hbefore change hlog hnext other hother
  have hle := change.nextHandle_le
  rcases List.mem_append.mp hother with hmem | hlast
  · exact hlog (by omega) other hmem
  · rw [List.mem_singleton] at hlast
    subst hlast
    have hnot : ¬ other.before.Pending h := fun hp => by
      have := hbefore.lt_of_pending hp
      omega
    refine ⟨fun hstarts => ?_, fun hremoves => hnot (Mark.removes_iff.mp hremoves).2.1⟩
    exact hnot (change.pending_of_started hbefore (by simpa [Mark.starts] using hstarts))

/-- The sum that each step keeps, over a whole history. -/
lemma Leads.tally (c : a.Consistent) (leads : Leads a log b) (hh : h < a.nextHandle)
    (honce : RunsOnce h a) :
    (if b.Pending h then 1 else 0) + log.countP (·.starts h) + log.countP (·.removes h)
      = if a.Pending h then 1 else 0 := by
  refine (leads.step_induction (P := fun log b => h < b.nextHandle ∧ RunsOnce h b ∧
    (if b.Pending h then 1 else 0) + log.countP (·.starts h) + log.countP (·.removes h)
      = if a.Pending h then 1 else 0) c ⟨hh, honce, by simp⟩ ?_).2.2.2
  rintro log mark hbefore change ⟨hlt, honce, hsum⟩
  refine ⟨lt_of_lt_of_le hlt change.nextHandle_le, ?_, ?_⟩
  · rintro e he rfl
    obtain ⟨f, hf, hhandle, haction⟩ := change.action_eq he hlt
    rw [← haction]
    exact honce f hf hhandle
  · have htally := change.tally hbefore hlt honce
    rw [List.countP_append, List.countP_append, List.countP_singleton, List.countP_singleton]
    omega

/-- A timer that waits and repeats does so until it is cancelled or the agenda is closed. -/
lemma Leads.keeps_event (c : a.Consistent) (leads : Leads a log b) (hh : h < a.nextHandle)
    (hpending : a.Pending h) (hagain : ∀ e ∈ a.queue, e.handle = h → e.action = .again)
    (hkept : ∀ mark ∈ log, mark.deed.cancels h = false ∧ mark.deed.closes = false) :
    b.Pending h := by
  refine ((leads.step_induction (P := fun log b =>
    (∀ mark ∈ log, mark.deed.cancels h = false ∧ mark.deed.closes = false) →
      h < b.nextHandle ∧ b.Pending h ∧ ∀ e ∈ b.queue, e.handle = h → e.action = .again)
    c (fun _ => ⟨hh, hpending, hagain⟩) ?_).2 hkept).2.1
  intro log mark hbefore change hlog hkept
  obtain ⟨hlt, hpending, hagain⟩ :=
    hlog fun other hother => hkept other (List.mem_append_left _ hother)
  obtain ⟨hcancels, hcloses⟩ := hkept mark (List.mem_append_right _ (List.mem_singleton_self _))
  -- its event may be started, but then the next one is entered in the same step
  refine ⟨lt_of_lt_of_le hlt change.nextHandle_le, (change.pending_iff hbefore hlt).mpr
    ⟨hpending, hcancels, hcloses, ?_⟩, ?_⟩
  · intro event callback hdeed heq
    rw [hdeed] at change
    exact hagain event (mem_of_earliest? change.of_started.1) heq
  · rintro e he rfl
    obtain ⟨f, hf, hhandle, haction⟩ := change.action_eq he hlt
    rw [← haction]
    exact hagain f hf hhandle

/-- A timer that runs once is, from its registration on, waiting, started once or taken off once. -/
lemma Leads.tally_of_issuedLater (c : a.Consistent) (leads : Leads a log b)
    (hmark : mark ∈ log) (hlater : mark.deed.issuedLater? = some h) :
    (if b.Pending h then 1 else 0) + log.countP (·.starts h) + log.countP (·.removes h) = 1 := by
  obtain ⟨past, since, rfl⟩ := List.append_of_mem hmark
  obtain ⟨mid, hpast, rfl, hhappens, hsince⟩ := Leads.append_iff.mp leads
  have cmid := (hpast.consistent c).1
  have hchange := hhappens.change cmid
  obtain ⟨hissued, hevery, hstarted⟩ := Deed.issued?_of_issuedLater? hlater
  obtain ⟨hh, hnext, hpending, hevents⟩ := hchange.of_issued cmid hissued
  have honce : RunsOnce h mark.after := fun e he heq => by
    rcases hevents e he heq with ⟨-, hk⟩ | ⟨hnot, -⟩
    · exact hk
    · rw [hlater] at hnot
      cases hnot
  -- before the registration nothing happened to the handle, and since then the sum is kept
  obtain ⟨hnone, hnever⟩ := hpast.untouched c (h := h) (by omega)
  have hsum := hsince.tally (hchange.consistent cmid) (by omega) honce
  rw [if_pos hpending] at hsum
  have hstarts : mark.starts h = false := by
    rw [Mark.starts, hstarted]
    rfl
  have hremoves : mark.removes h = false := by simp [Mark.removes, hpending]
  rw [List.countP_append, List.countP_append, List.countP_cons, List.countP_cons, hnone, hnever,
    hstarts, hremoves]
  simp only [Bool.false_eq_true, if_false]
  omega

/-- A repeating timer that was not cancelled since it was registered has one event. -/
lemma Leads.one_event_of_issuedEvery {past since : List (Mark τ κ ε)} (c : a.Consistent)
    (leads : Leads a (past ++ mark :: since) b) (hevery : mark.deed.issuedEvery? = some h)
    (hkept : ∀ other ∈ since, other.deed.cancels h = false ∧ other.deed.closes = false) :
    (b.queue.filter (·.handle == h)).length = 1 := by
  obtain ⟨mid, hpast, rfl, hhappens, hsince⟩ := Leads.append_iff.mp leads
  have cmid := (hpast.consistent c).1
  have hchange := hhappens.change cmid
  obtain ⟨hissued, hlater⟩ := Deed.issued?_of_issuedEvery? hevery
  obtain ⟨hh, hnext, hpending, hevents⟩ := hchange.of_issued cmid hissued
  have hagain : ∀ e ∈ mark.after.queue, e.handle = h → e.action = .again := fun e he heq => by
    rcases hevents e he heq with ⟨hnot, -⟩ | ⟨-, hk⟩
    · rw [hevery] at hnot
      cases hnot
    · exact hk
  have cafter := hchange.consistent cmid
  have hwaits := hsince.keeps_event cafter (by omega) hpending hagain hkept
  exact (hsince.consistent cafter).1.length_filter_handle hwaits

/-- A handle that was given out and waits no longer is not started again. -/
lemma Leads.never_started (c : a.Consistent) (leads : Leads a log b) (hh : h < a.nextHandle)
    (hgone : ¬ a.Pending h) : ∀ mark ∈ log, mark.starts h = false := by
  refine (leads.step_induction (P := fun log b => (h < b.nextHandle ∧ ¬ b.Pending h) ∧
    ∀ mark ∈ log, mark.starts h = false) c ⟨⟨hh, hgone⟩, by simp⟩ ?_).2.2
  rintro log mark hbefore change ⟨⟨hlt, hgone⟩, hlog⟩
  refine ⟨⟨lt_of_lt_of_le hlt change.nextHandle_le,
    fun hp => hgone ((change.pending_iff hbefore hlt).mp hp).1⟩, fun other hother => ?_⟩
  rcases List.mem_append.mp hother with hmem | hlast
  · exact hlog other hmem
  · rw [List.mem_singleton] at hlast
    subst hlast
    rw [Mark.starts, beq_eq_false_iff_ne]
    exact fun hstarted => hgone (change.pending_of_started hbefore hstarted)

/-- Nothing is started on a closed agenda, which stays closed. -/
lemma Leads.closed_idle (c : a.Consistent) (leads : Leads a log b) (hclosed : a.closed = true)
    (hempty : a.queue = []) : ∀ mark ∈ log, mark.deed.started? = none := by
  refine (leads.step_induction (P := fun log b => (b.closed = true ∧ b.queue = []) ∧
    ∀ mark ∈ log, mark.deed.started? = none) c ⟨⟨hclosed, hempty⟩, by simp⟩ ?_).2.2
  rintro log mark hbefore change ⟨⟨hclosed, hempty⟩, hlog⟩
  refine ⟨change.closed_empty hclosed hempty, fun other hother => ?_⟩
  rcases List.mem_append.mp hother with hmem | hlast
  · exact hlog other hmem
  · rw [List.mem_singleton] at hlast
    subst hlast
    cases hstarted : other.deed.started? with
    | none => rfl
    | some h =>
      obtain ⟨e, he, -⟩ := hbefore.pending_iff.mp (change.pending_of_started hbefore hstarted)
      simp [hempty] at he

end Steps

/-! ## Sessions -/

variable [Add τ] [Sub τ] [LT τ] [DecidableLT τ] [Zero τ]

/-- No timer is lost, duplicated or resurrected.

In every history that begins with an empty agenda: handles are given out once. At every point, the
handle of a timer that runs once is waiting, or has been started once, or has been taken off once by
a cancellation or by closing. A repeating timer that was neither cancelled nor closed since it was
registered has one event in the queue. After a cancellation of a handle that was given out, in
either way, none of its callbacks is started any more, and after closing no callback at all. -/
theorem timers_accounted_for (b : Behaviour τ κ ε μ) (turns : Nat)
    (caller : Script (Op τ κ) (Reply ε) α) (now : τ) (m : μ) :
    let log := (b.session turns caller (.empty now) m).log
    (log.filterMap (·.deed.issued?)).Nodup ∧
    (∀ past rest h, log = past ++ rest → (∃ mark ∈ past, mark.deed.issuedLater? = some h) →
      (if (reached (.empty now) past).Pending h then 1 else 0) + past.countP (·.starts h)
        + past.countP (·.removes h) = 1) ∧
    (∀ past mark since rest h, log = (past ++ mark :: since) ++ rest →
      mark.deed.issuedEvery? = some h →
      (∀ other ∈ since, other.deed.cancels h = false ∧ other.deed.closes = false) →
      ((reached (.empty now) (past ++ mark :: since)).queue.filter (·.handle == h)).length = 1) ∧
    (∀ past mark rest h, log = past ++ mark :: rest →
      (∃ earlier ∈ past, earlier.deed.issued? = some h) → mark.deed.cancels h = true →
      ∀ later ∈ rest, later.starts h = false) ∧
    (∀ past mark rest, log = past ++ mark :: rest → mark.deed.closes = true →
      ∀ later ∈ rest, later.deed.started? = none) := by
  intro log
  have hleads : Leads (.empty now) log _ := session_leads b turns caller (.empty now) m
  have hempty : (Agenda.empty now : Agenda τ κ).Consistent := Consistent.empty now
  refine ⟨(hleads.issued hempty).1, ?_, ?_, ?_, ?_⟩
  · rintro past rest h hlog ⟨mark, hmark, hissued⟩
    rw [hlog] at hleads
    obtain ⟨mid, hpast, -⟩ := Leads.append_iff.mp hleads
    rw [hpast.reached_eq]
    exact hpast.tally_of_issuedLater hempty hmark hissued
  · intro past mark since rest h hlog hissued hkept
    rw [hlog] at hleads
    obtain ⟨mid, hpast, -⟩ := Leads.append_iff.mp hleads
    rw [hpast.reached_eq]
    exact hpast.one_event_of_issuedEvery hempty hissued hkept
  · rintro past mark rest h hlog ⟨earlier, hearlier, hissued⟩ hcancels
    rw [hlog] at hleads
    obtain ⟨mid, hpast, hbefore, hhappens, hrest⟩ := Leads.append_iff.mp hleads
    have cmid := (hpast.consistent hempty).1
    rw [hbefore] at hhappens
    have hchange := hhappens.change cmid
    have hlt := (hpast.issued hempty).2 h (List.mem_filterMap.mpr ⟨earlier, hearlier, hissued⟩)
    refine hrest.never_started (hchange.consistent cmid)
      (lt_of_lt_of_le hlt hchange.nextHandle_le) fun hp => ?_
    have hkept := ((hchange.pending_iff cmid hlt).mp hp).2.1
    rw [hcancels] at hkept
    cases hkept
  · intro past mark rest hlog hcloses
    rw [hlog] at hleads
    obtain ⟨mid, hpast, hbefore, hhappens, hrest⟩ := Leads.append_iff.mp hleads
    have cmid := (hpast.consistent hempty).1
    rw [hbefore] at hhappens
    have hchange := hhappens.change cmid
    obtain ⟨hclosed, hnone⟩ := hchange.of_closes hcloses
    exact hrest.closed_idle (hchange.consistent cmid) hclosed hnone

end SnippetRunner.Timer
