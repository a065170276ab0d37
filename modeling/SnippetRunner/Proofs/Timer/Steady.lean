import Mathlib.Algebra.Order.Floor.Semiring
import Mathlib.Algebra.Order.Field.Rat
import Mathlib.Data.Rat.Floor
import SnippetRunner.Proofs.Timer.Callbacks
import SnippetRunner.Proofs.Timer.Lifecycle

/-!
# Drains of steady timers

When the callbacks leave the agenda alone, a drain to a deadline is a timetable. On a clock of exact
numbers each timer runs at its due time, and a repeating one every period after it, up to the deadline
and at the deadline itself, whatever other timers there are.

Each turn that starts a callback takes one time off what is left of the timetable, so `load`, the
number of times that are left, bounds the turns. `drained_on_schedule` is the statement.
-/

namespace SnippetRunner.Timer

open Agenda

variable {κ ε μ : Type}

/-! ## Timetables -/

/-- The period of an event's timer, if it repeats. -/
def Agenda.period? {τ : Type} (a : Agenda τ κ) (e : Event τ κ) : Option τ :=
  match e.action with
  | .once _ => none
  | .again => (find? a.intervals e.handle).map (·.period)

/-- How often a timer runs that is due at `u` and then every `p`, up to `d`. -/
def firings (d u p : ℚ) : Nat := if u ≤ d then ⌊(d - u) / p⌋₊ + 1 else 0

/-- When a timer runs that is due at `u`, up to `d`. -/
def timetable (d u : ℚ) : Option ℚ → List ℚ
  | none => if u ≤ d then [u] else []
  | some p => (List.range (firings d u p)).map fun i : Nat => u + i * p

/-- Whether a timer is still waiting when all that is due up to `d` has run. -/
def Event.Outlasts (d : ℚ) (e : Event ℚ κ) : Prop := e.action = .again ∨ d < e.due

/-- When the callbacks of a handle are started in a history. -/
def startTimes (h : Nat) (log : List (Mark ℚ κ ε)) : List ℚ :=
  (log.filter (·.starts h)).map (·.before.now)

/-- How many times are left on the timetables of an agenda. -/
def load (d : ℚ) (a : Agenda ℚ κ) : Nat :=
  (a.queue.map fun e => (timetable d e.due (a.period? e)).length).sum

/-- An agenda before a drain: nothing is overdue, the deadline is ahead, and periods are positive. -/
structure Steady (d : ℚ) (a : Agenda ℚ κ) : Prop where
  consistent : a.Consistent
  ahead : a.now ≤ d
  due : ∀ e ∈ a.queue, a.now ≤ e.due
  period : ∀ e ∈ a.queue, ∀ p, a.period? e = some p → 0 < p

/-- A drain by the timetable: each timer that was waiting is started when it is on its timetable, no
other timer is started, those that outlast the deadline are left, and the drain raises if there are
any. -/
structure OnSchedule (d : ℚ) (a : Agenda ℚ κ) (run : Logged ℚ κ ε (Ending ε × Agenda ℚ κ × μ)) :
    Prop where
  starts : ∀ e ∈ a.queue, startTimes e.handle run.log = timetable d e.due (a.period? e)
  waiting : ∀ mark ∈ run.log, ∀ h, mark.starts h = true → a.Pending h
  left : ∀ h, run.result.2.1.Pending h ↔ ∃ e ∈ a.queue, e.handle = h ∧ e.Outlasts d
  ending : run.result.1 = .late ∧ (∃ h, run.result.2.1.Pending h) ∨
    run.result.1 = .done ∧ run.result.2.1.pending = 0

/-- A timer that is due up to the deadline runs then, and its next event has the rest of its
timetable. -/
lemma timetable_some {d u p : ℚ} (hp : 0 < p) (hu : u ≤ d) :
    timetable d u (some p) = u :: timetable d (u + p) (some p) := by
  have hcount : firings d u p = firings d (u + p) p + 1 := by
    have hdiv : (d - u) / p = (d - (u + p)) / p + 1 := by
      field_simp
      ring
    rw [firings, firings, if_pos hu]
    by_cases hnext : u + p ≤ d
    · have hnonneg : 0 ≤ (d - (u + p)) / p := div_nonneg (sub_nonneg.mpr hnext) hp.le
      rw [if_pos hnext, hdiv, Nat.floor_add_one hnonneg]
    · have hlt : (d - u) / p < 1 := by
        rw [div_lt_one hp]
        linarith
      rw [if_neg hnext, Nat.floor_eq_zero.mpr hlt]
  simp only [timetable]
  rw [hcount, List.range_succ_eq_map, List.map_cons, List.map_map]
  refine congrArg₂ List.cons (by simp) (List.map_congr_left fun i _ => ?_)
  simp only [Function.comp_apply, Nat.cast_succ]
  ring

lemma timetable_of_lt {d u : ℚ} (hu : d < u) (p : Option ℚ) : timetable d u p = [] := by
  cases p with
  | none => exact if_neg (not_le.mpr hu)
  | some p => simp [timetable, firings, not_le.mpr hu]

/-! ## Starting a timer -/

/-- The event that a timer enters when it is started. -/
def Agenda.next? (a : Agenda ℚ κ) (e : Event ℚ κ) : Option (Event ℚ κ) :=
  (a.period? e).map fun p => ⟨a.now + p, a.nextOrder, e.handle, .again⟩

section Steps

variable {d : ℚ} {a s : Agenda ℚ κ} {e f : Event ℚ κ} {callback : κ} {b : Behaviour ℚ κ ε μ}
  {run : Logged ℚ κ ε (Ending ε × Agenda ℚ κ × μ)} {log : List (Mark ℚ κ ε)} {mark : Mark ℚ κ ε}
  {h : Nat}

/-- Callbacks that ask for nothing leave the agenda as it is. -/
lemma called_of_quiet (quiet : b.Within (fun _ => False) (· = .done)) (callback : κ)
    (a : Agenda ℚ κ) (m : μ) :
    b.called callback a m = ⟨[], .done, a, b.note callback a m⟩ := by
  have within := quiet callback a (b.note callback a m)
  cases hscript : b.script callback a (b.note callback a m) with
  | stop ending =>
    rw [hscript] at within
    obtain rfl : ending = .done := within
    simp only [Behaviour.called, hscript, runSingle]
  | act op next =>
    rw [hscript] at within
    exact within.1.elim

lemma period?_of_next? (hf : a.next? e = some f) :
    f.handle = e.handle ∧ f.action = .again ∧ e.action = .again ∧ a.period? f = a.period? e ∧
      ∃ p, a.period? e = some p ∧ f.due = a.now + p := by
  obtain ⟨p, hp, rfl⟩ := Option.map_eq_some_iff.mp hf
  have haction : e.action = .again := by
    cases haction : e.action with
    | once k => simp [period?, haction] at hp
    | again => rfl
  refine ⟨rfl, rfl, haction, ?_, p, hp, rfl⟩
  simp only [period?, haction]

/-- What starting a timer leaves: its event is taken off, and a repeating one enters the next. -/
structure Started (a : Agenda ℚ κ) (e : Event ℚ κ) (s : Agenda ℚ κ) : Prop where
  consistent : s.Consistent
  now : s.now = a.now
  deadline : s.deadline = a.deadline
  intervals : s.intervals = a.intervals
  queue : s.queue = (a.removeEvent e.handle).queue ++ (a.next? e).toList

lemma exists_started (hc : a.Consistent) (hturn : a.turn = .fire e) :
    ∃ callback s, a.start e = (some callback, s) ∧ Started a e s := by
  obtain ⟨hfirst, hdue⟩ := turn_eq_fire hturn
  have he := mem_of_earliest? hfirst
  obtain ⟨honce, hagain⟩ := start_eq hc.toLinked he
  cases haction : e.action with
  | once callback =>
    have hchange : Change a (.started e callback : Deed ℚ κ Unit) _ :=
      .ranOnce hfirst hdue haction
    exact ⟨callback, _, honce callback haction, hchange.consistent hc, hchange.started_frame.1,
      hchange.started_frame.2, removeEvent_intervals, by simp [next?, period?, haction]⟩
  | again =>
    obtain ⟨interval, hfound⟩ := hc.interval_of_again e he haction
    have hchange : Change a (.started e interval.callback : Deed ℚ κ Unit) _ :=
      .ranAgain hfirst hdue haction hfound
    refine ⟨interval.callback, _, hagain interval haction hfound, hchange.consistent hc,
      hchange.started_frame.1, hchange.started_frame.2, removeEvent_intervals, ?_⟩
    simp [next?, period?, haction, hfound, enter]

namespace Started

lemma period? (started : Started a e s) (f : Event ℚ κ) : s.period? f = a.period? f := by
  rw [Agenda.period?, Agenda.period?, started.intervals]

lemma mem_queue (started : Started a e s) (hc : a.Consistent) :
    f ∈ s.queue ↔ (f ∈ a.queue ∧ f.handle ≠ e.handle) ∨ a.next? e = some f := by
  rw [started.queue, List.mem_append, hc.mem_queue_removeEvent, Option.mem_toList]

/-- The timetable of the timer that is started: this time, and the timetable of its next event. -/
lemma timetable (steady : Steady d a) (he : e ∈ a.queue) (hnow : a.now = e.due) :
    timetable d e.due (a.period? e)
      = e.due :: (a.next? e).elim [] fun f => timetable d f.due (a.period? f) := by
  have hle : e.due ≤ d := hnow ▸ steady.ahead
  cases hperiod : a.period? e with
  | none => simp [next?, hperiod, Timer.timetable, hle]
  | some p =>
    have hnext : a.next? e = some ⟨a.now + p, a.nextOrder, e.handle, .again⟩ := by
      rw [next?, hperiod, Option.map_some]
    rw [timetable_some (steady.period e he p hperiod) hle, hnext, Option.elim_some,
      (period?_of_next? hnext).2.2.2.1, hperiod, hnow]

lemma steady (started : Started a e s) (steady : Steady d a) (he : e ∈ a.queue) : Steady d s where
  consistent := started.consistent
  ahead := started.now ▸ steady.ahead
  due := by
    intro f hf
    rw [started.now]
    rcases (started.mem_queue steady.consistent).mp hf with ⟨hold, -⟩ | hnext
    · exact steady.due f hold
    · obtain ⟨-, -, -, -, p, hp, hdue⟩ := period?_of_next? hnext
      rw [hdue]
      exact le_add_of_nonneg_right (steady.period e he p hp).le
  period := by
    intro f hf p hp
    rw [started.period?] at hp
    rcases (started.mem_queue steady.consistent).mp hf with ⟨hold, -⟩ | hnext
    · exact steady.period f hold p hp
    · exact steady.period e he p ((period?_of_next? hnext).2.2.2.1 ▸ hp)

/-- Each start takes one time off the timetables. -/
lemma load (started : Started a e s) (steady : Steady d a) (he : e ∈ a.queue)
    (hnow : a.now = e.due) : load d a = load d s + 1 := by
  have hperm := (steady.consistent.queue_perm he).map
    fun f => (Timer.timetable d f.due (a.period? f)).length
  rw [Timer.load, Timer.load, hperm.sum_eq, started.queue, List.map_cons, List.sum_cons,
    Started.timetable steady he hnow, List.map_append, List.sum_append]
  simp only [started.period?]
  cases a.next? e <;> simp <;> omega

lemma startTimes_started : startTimes h (run.after [⟨a, .started e callback, s⟩]).log
    = if e.handle = h then a.now :: startTimes h run.log else startTimes h run.log := by
  by_cases heq : e.handle = h <;>
    simp [startTimes, Logged.after, Mark.starts, Deed.started?, heq]

/-- A drain that goes on by the timetable after a start was by the timetable before it. -/
lemma onSchedule (started : Started a e s) (steady : Steady d a) (he : e ∈ a.queue)
    (hnow : a.now = e.due) (schedule : OnSchedule d s run) :
    OnSchedule d a (run.after [⟨a, .started e callback, s⟩]) where
  starts := by
    intro f hf
    by_cases heq : f.handle = e.handle
    · obtain rfl := steady.consistent.eq_of_handle_eq hf he heq
      rw [startTimes_started, if_pos rfl, Started.timetable steady he hnow, hnow]
      refine congrArg (f.due :: ·) ?_
      cases hnext : a.next? f with
      | none =>
        -- nothing of the handle is left, so it is not started again
        refine List.map_eq_nil_iff.mpr (List.filter_eq_nil_iff.mpr fun mark hmark hstarts => ?_)
        obtain ⟨g, hg, hhandle⟩ := started.consistent.pending_iff.mp
          (schedule.waiting mark hmark _ hstarts)
        rcases (started.mem_queue steady.consistent).mp hg with ⟨-, hne⟩ | hg
        · exact hne hhandle
        · rw [hnext] at hg
          cases hg
      | some g =>
        have hg := (started.mem_queue steady.consistent).mpr (Or.inr hnext)
        rw [Option.elim_some, ← started.period?, ← schedule.starts g hg,
          (period?_of_next? hnext).1]
    · have hf' := (started.mem_queue steady.consistent).mpr (Or.inl ⟨hf, heq⟩)
      rw [startTimes_started, if_neg (Ne.symm heq), schedule.starts f hf', started.period?]
  waiting := by
    intro mark hmark h hstarts
    rcases List.mem_cons.mp hmark with rfl | hrest
    · obtain rfl : e.handle = h := by simpa [Mark.starts, Deed.started?] using hstarts
      exact steady.consistent.pending_iff.mpr ⟨e, he, rfl⟩
    · obtain ⟨f, hf, rfl⟩ := started.consistent.pending_iff.mp
        (schedule.waiting mark hrest h hstarts)
      rcases (started.mem_queue steady.consistent).mp hf with ⟨hold, -⟩ | hnext
      · exact steady.consistent.pending_iff.mpr ⟨f, hold, rfl⟩
      · exact steady.consistent.pending_iff.mpr ⟨e, he, (period?_of_next? hnext).1.symm⟩
  left := by
    intro h
    refine (schedule.left h).trans ⟨?_, ?_⟩
    · rintro ⟨f, hf, rfl, houtlasts⟩
      rcases (started.mem_queue steady.consistent).mp hf with ⟨hold, -⟩ | hnext
      · exact ⟨f, hold, rfl, houtlasts⟩
      · obtain ⟨hhandle, -, hagain, -⟩ := period?_of_next? hnext
        exact ⟨e, he, hhandle.symm, Or.inl hagain⟩
    · rintro ⟨f, hf, rfl, houtlasts⟩
      by_cases heq : f.handle = e.handle
      · obtain rfl := steady.consistent.eq_of_handle_eq hf he heq
        -- it is due by the deadline, so it is a repeating timer, and has a next event
        have hagain : f.action = .again :=
          houtlasts.resolve_right (not_lt.mpr (hnow ▸ steady.ahead))
        obtain ⟨interval, hfound⟩ := steady.consistent.interval_of_again f hf hagain
        have hnext : a.next? f = some ⟨a.now + interval.period, a.nextOrder, f.handle, .again⟩ := by
          simp [next?, Agenda.period?, hagain, hfound]
        exact ⟨_, (started.mem_queue steady.consistent).mpr (Or.inr hnext), rfl, Or.inl rfl⟩
      · exact ⟨f, (started.mem_queue steady.consistent).mpr (Or.inl ⟨hf, heq⟩), rfl, houtlasts⟩
  ending := schedule.ending

end Started

/-! ## Whole drains -/

/-- Waiting is not on the timetable. -/
lemma OnSchedule.waited {moment : ℚ} (schedule : OnSchedule d { a with now := moment } run) :
    OnSchedule d a (run.after [⟨a, .waited, { a with now := moment }⟩]) where
  starts := schedule.starts
  waiting := by
    intro mark hmark h hstarts
    rcases List.mem_cons.mp hmark with rfl | hrest
    · simp [Mark.starts, Deed.started?] at hstarts
    · exact schedule.waiting mark hrest h hstarts
  left := schedule.left
  ending := schedule.ending

lemma OnSchedule.idle (hc : a.Consistent) (hqueue : a.queue = []) (m : μ) :
    OnSchedule d a (⟨[], .done, a, m⟩ : Logged ℚ κ ε _) where
  starts := by simp [hqueue]
  waiting := by simp
  left := by simp [hc.pending_iff, hqueue]
  ending := Or.inr ⟨rfl, by rw [hc.pending_eq_length, hqueue, List.length_nil]⟩

/-- When the first timer is due after the deadline, so are the others, and all outlast it. -/
lemma OnSchedule.late (hc : a.Consistent) (hfirst : earliest? a.queue = some e) (hlate : d < e.due)
    (m : μ) : OnSchedule d a (⟨[], .late, a, m⟩ : Logged ℚ κ ε _) := by
  have hall : ∀ f ∈ a.queue, d < f.due := fun f hf => by
    have hbefore := earliest?_not_before (fun _ _ => trivial) hfirst f hf
    exact lt_of_lt_of_le hlate (not_lt.mp (not_before_iff.mp hbefore).1)
  refine ⟨fun f hf => (timetable_of_lt (hall f hf) _).symm, by simp, fun h => ?_,
    Or.inl ⟨rfl, e.handle, hc.pending_iff.mpr ⟨e, mem_of_earliest? hfirst, rfl⟩⟩⟩
  rw [hc.pending_iff]
  constructor
  · rintro ⟨f, hf, hhandle⟩
    exact ⟨f, hf, hhandle, Or.inr (hall f hf)⟩
  · rintro ⟨f, hf, hhandle, -⟩
    exact ⟨f, hf, hhandle⟩

/-- Waiting for the first timer leaves an agenda steady. -/
lemma Steady.wait (steady : Steady d a) (hfirst : earliest? a.queue = some e) (hle : e.due ≤ d) :
    Steady d { a with now := e.due } where
  consistent := steady.consistent.frame rfl rfl rfl rfl le_rfl
  ahead := hle
  due := fun f hf => by
    have hbefore := earliest?_not_before (fun _ _ => trivial) hfirst f hf
    exact not_lt.mp (not_before_iff.mp hbefore).1
  period := steady.period

/-- The loop runs by the timetable. Two turns are enough for each time on it: one that waits, and one
that starts a callback. -/
lemma drainTurnsLogged_onSchedule (quiet : b.Within (fun _ => False) (· = .done)) (turns : Nat) :
    ∀ (a : Agenda ℚ κ) (m : μ), Steady d a → a.deadline = some d →
      2 * load d a + 1 < turns ∨ 2 * load d a < turns ∧ (∀ moment, a.turn ≠ .wait moment) →
      OnSchedule d a (drainTurnsLogged b.called turns a m) := by
  induction turns with
  | zero => exact fun a m _ _ hturns => absurd hturns (by simp)
  | succ turns ih =>
    intro a m steady hd hturns
    cases hturn : a.turn with
    | idle =>
      rw [drainTurnsLogged_idle hturn]
      exact .idle steady.consistent (turn_eq_idle hturn) m
    | late =>
      rw [drainTurnsLogged_late hturn]
      obtain ⟨e, hfirst, -, hpasses⟩ := turn_eq_late hturn
      simp only [passesDeadline, hd, decide_eq_true_eq, add_sub_cancel] at hpasses
      exact .late steady.consistent hfirst hpasses m
    | wait moment =>
      obtain ⟨e, hfirst, -, rfl, hontime⟩ := turn_eq_wait hturn
      simp only [passesDeadline, hd, decide_eq_false_iff_not, add_sub_cancel, not_lt] at hontime
      have hmore := hturns.resolve_right fun h => h.2 _ hturn
      rw [drainTurnsLogged_wait hturn]
      simp only [add_sub_cancel]
      have hfire : ({ a with now := e.due } : Agenda ℚ κ).turn = .fire e := by
        simp [turn, hfirst]
      exact (ih { a with now := e.due } m (steady.wait hfirst hontime) hd
        (Or.inr ⟨Nat.lt_of_succ_lt_succ hmore, fun _ => by rw [hfire]; simp⟩)).waited
    | fire e =>
      obtain ⟨hfirst, hdue⟩ := turn_eq_fire hturn
      have he := mem_of_earliest? hfirst
      have hnow : a.now = e.due := le_antisymm (steady.due e he) (not_lt.mp hdue)
      obtain ⟨callback, s, hstart, started⟩ := exists_started steady.consistent hturn
      have steady' := started.steady steady he
      have hontime : s.isLate = false := by
        simp [isLate, passesDeadline, started.deadline, hd, steady'.ahead]
      have hload := started.load steady he hnow
      rw [drainTurnsLogged_fire hturn hstart, called_of_quiet quiet]
      rw [afterCallback_done, hontime, if_neg Bool.false_ne_true]
      exact started.onSchedule steady he hnow
        (ih s _ steady' (started.deadline.trans hd) (Or.inl (by omega)))

/-- A drain of timers whose callbacks leave the agenda alone, with nothing overdue and a deadline
ahead, ends, and runs by the timetable.

Each timer that was waiting is started at the times of its timetable and at no others: one that runs
once at its due time, a repeating one at its due time and every period after it, all up to the
deadline. Those that repeat or are due after the deadline are left, and no others. The drain raises if
there are any, and returns with nothing pending if not. -/
theorem drained_on_schedule (quiet : b.Within (fun _ => False) (· = .done)) (hc : a.Consistent)
    (hahead : a.now ≤ d) (hdue : ∀ e ∈ a.queue, a.now ≤ e.due)
    (hperiod : ∀ e ∈ a.queue, ∀ p, a.period? e = some p → 0 < p) (m : μ) :
    ∃ enough, ∀ turns, enough ≤ turns →
      let run := b.drained turns (some d) a m
      (∀ e ∈ a.queue, startTimes e.handle run.log = timetable d e.due (a.period? e)) ∧
      (∀ mark ∈ run.log, ∀ h, mark.starts h = true → a.Pending h) ∧
      (∀ h, run.result.2.1.Pending h ↔ ∃ e ∈ a.queue, e.handle = h ∧ e.Outlasts d) ∧
      (run.result.1 = .late ↔ ∃ e ∈ a.queue, e.Outlasts d) ∧
      (run.result.1 ≠ .late → run.result.1 = .done ∧ run.result.2.1.pending = 0) := by
  have steady : Steady d { a with deadline := some d } :=
    ⟨hc.frame rfl rfl rfl rfl le_rfl, hahead, hdue, hperiod⟩
  have within : b.Within Op.Single (· = .done) := quiet.mono (fun _ h => h.elim) fun _ h => h
  refine ⟨2 * load d { a with deadline := some d } + 2, fun turns hturns => ?_⟩
  have schedule := drainTurnsLogged_onSchedule quiet turns _ m steady rfl
    (Or.inl (by omega))
  rw [← drained_eq within] at schedule
  refine ⟨schedule.starts, schedule.waiting, schedule.left, ?_, fun hnot =>
    schedule.ending.resolve_left fun h => hnot h.1⟩
  rcases schedule.ending with ⟨hlate, h, hpending⟩ | ⟨hdone, hnone⟩
  · obtain ⟨e, he, -, houtlasts⟩ := (schedule.left h).mp hpending
    exact ⟨fun _ => ⟨e, he, houtlasts⟩, fun _ => hlate⟩
  · refine ⟨fun hlate => ?_, fun ⟨e, he, houtlasts⟩ => ?_⟩
    · rw [hdone] at hlate
      cases hlate
    · have hpending := (schedule.left e.handle).mpr ⟨e, he, rfl, houtlasts⟩
      rw [Pending, List.eq_nil_of_length_eq_zero hnone] at hpending
      cases hpending

end Steps

/-- A timer every 2 seconds and one after 3, up to the deadline 6: the first one runs at 2, 4 and 6,
the second one at 3, and the first one is left. -/
theorem drained_on_schedule_two_timers :
    let b : Behaviour ℚ Unit Unit Unit := ⟨fun _ _ m => m, fun _ _ _ => .stop .done⟩
    let a : Agenda ℚ Unit :=
      (((Agenda.empty 0).callEvery (.ok 2) (.callable ())).2.callLater (.ok 3) (.callable ())).2
    (b.Within (fun _ => False) (· = .done) ∧ a.Consistent ∧ a.now ≤ 6 ∧
      (∀ e ∈ a.queue, a.now ≤ e.due) ∧ (∀ e ∈ a.queue, ∀ p, a.period? e = some p → 0 < p)) ∧
    ∃ enough, ∀ turns, enough ≤ turns →
      let run := b.drained turns (some 6) a ()
      startTimes 1 run.log = [2, 4, 6] ∧ startTimes 2 run.log = [3] ∧ run.result.1 = .late ∧
        run.result.2.1.Pending 1 := by
  intro b a
  have hqueue : a.queue = [⟨2, 0, 1, .again⟩, ⟨3, 1, 2, .once ()⟩] := by
    simp [a, callEvery, callLater, accept, Agenda.empty, enter, clamp]
  have hc : a.Consistent := by
    have hevery : Change (Agenda.empty 0) (.asked (.callEvery (.ok 2) (.callable ())) _ :
      Deed ℚ Unit Unit) _ := callEvery_change _ _
    have hlater : Change _ (.asked (.callLater (.ok 3) (.callable ())) _ : Deed ℚ Unit Unit) a :=
      callLater_change _ _
    exact hlater.consistent (hevery.consistent (Consistent.empty 0))
  have hintervals : a.intervals = [(1, ⟨2, ()⟩)] := by
    simp [a, callEvery, callLater, accept, Agenda.empty, enter, clamp, put, erase]
  have hevery : a.period? ⟨2, 0, 1, .again⟩ = some 2 := by simp [period?, hintervals, find?]
  have honce : a.period? ⟨3, 1, 2, .once ()⟩ = none := rfl
  have hnow : a.now = 0 := rfl
  have hdue : ∀ e ∈ a.queue, a.now ≤ e.due := by simp [hqueue, hnow]
  have hperiod : ∀ e ∈ a.queue, ∀ p, a.period? e = some p → 0 < p := by
    simp [hqueue, hevery, honce]
  refine ⟨⟨fun _ _ _ => rfl, hc, by norm_num [hnow], hdue, hperiod⟩, ?_⟩
  obtain ⟨enough, hrun⟩ := drained_on_schedule (b := b) (fun _ _ _ => rfl) hc
    (d := 6) (by norm_num [hnow]) hdue hperiod ()
  refine ⟨enough, fun turns hturns => ?_⟩
  obtain ⟨hstarts, -, hleft, hlate, -⟩ := hrun turns hturns
  have hfirst := hstarts ⟨2, 0, 1, .again⟩ (by simp [hqueue])
  have hsecond := hstarts ⟨3, 1, 2, .once ()⟩ (by simp [hqueue])
  rw [hevery, timetable_some (by norm_num) (by norm_num), timetable_some (by norm_num) (by norm_num),
    timetable_some (by norm_num) (by norm_num), timetable_of_lt (by norm_num)] at hfirst
  rw [honce, timetable, if_pos (by norm_num)] at hsecond
  norm_num at hfirst
  refine ⟨hfirst, hsecond, hlate.mpr ⟨⟨2, 0, 1, .again⟩, by simp [hqueue], Or.inl rfl⟩,
    (hleft 1).mpr ⟨⟨2, 0, 1, .again⟩, by simp [hqueue], rfl, Or.inl rfl⟩⟩

end SnippetRunner.Timer
