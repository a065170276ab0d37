import SnippetRunner.Proofs.Timer.Callbacks
import SnippetRunner.Proofs.Timer.DueOrder

/-!
# A drain and its deadline

A drain starts no callback that is due after its deadline, and none once the clock is past it:
then it raises, and what is waiting goes on waiting. The callbacks may take time, register, cancel
and raise; the clock may be anywhere at the beginning.

There is one exception. The loop looks at the deadline before it waits and after each callback, but
not before its first turn, so an event that is due already is started by a drain that begins after
its deadline. `deadline_heeded` says what is true of every drain, and what happens in this case.
-/

namespace SnippetRunner.Timer

open Agenda Timeline

variable {τ κ ε μ : Type} [Add τ] [Sub τ] [LT τ] [DecidableLT τ] [Zero τ]

/-- The next event of the agenda is due already. -/
def Agenda.Overdue (a : Agenda τ κ) : Prop := ∃ e, earliest? a.queue = some e ∧ ¬ a.now < e.due

/-- How a drain goes on after a callback. It raises what the callback raised; it raises when the
clock is past the deadline, with the agenda as the callback left it; otherwise it does what a new
drain to the deadline would do. -/
structure GoesOn (b : Behaviour τ κ ε μ) (d : τ) (ran : Ending ε × Agenda τ κ × μ)
    (next : Logged τ κ ε (Ending ε × Agenda τ κ × μ)) : Prop where
  raised : ran.1 ≠ .done → next = ⟨[], ran⟩
  late : ran.1 = .done → d < ran.2.1.now → next = ⟨[], .late, ran.2⟩
  onTime : ran.1 = .done → ¬ d < ran.2.1.now →
    ∃ turns, next = b.drained turns (some d) ran.2.1 ran.2.2

/-- What is known of each start in a drain. Neither the clock nor the due time is after the deadline,
unless it is the first start and an exception holds. The callback runs, and the drain goes on. -/
def HeedsDeadline (b : Behaviour τ κ ε μ) (d : τ) (exception : Prop)
    (run : Logged τ κ ε (Ending ε × Agenda τ κ × μ)) : Prop :=
  ∀ past mark rest event callback, run.log = past ++ mark :: rest →
    mark.deed = .started event callback →
    (¬ d < mark.before.now ∧ ¬ d < event.due ∨ past = [] ∧ exception) ∧
    ∃ m next, rest = (b.called callback mark.after m).log ++ next.log ∧
      run.result = next.result ∧ GoesOn b d (b.called callback mark.after m).result next

/-! ## The clock and the deadline -/

section Clock

variable [Timeline τ] {a b : Agenda τ κ} {d : τ} {log : List (Mark τ κ ε)} {e : Event τ κ}

/-- A history of steps that do not set the clock back keeps the times of an agenda. -/
lemma Leads.inTime (c : a.Consistent) (t : InTime a) (leads : Leads a log b)
    (forward : ∀ mark ∈ log, mark.deed.Forward) : InTime b ∧ ¬ b.now < a.now := by
  refine (leads.step_induction (P := fun log b => (∀ mark ∈ log, mark.deed.Forward) →
    InTime b ∧ ¬ b.now < a.now) c (fun _ => ⟨t, fun hlt => not_lt_of_lt hlt hlt⟩) ?_).2 forward
  intro log mark hbefore change hlog hforward
  obtain ⟨htime, hnow⟩ := hlog fun other hother => hforward other (List.mem_append_left _ hother)
  obtain ⟨htime', hnow'⟩ := change.inTime
    (hforward mark (List.mem_append_right _ (List.mem_singleton_self _))) htime
  exact ⟨htime', not_lt_trans htime.now hnow' hnow⟩

omit [DecidableLT τ] in
/-- A clock that is past the deadline is so after any time span. -/
lemma lt_add_of_lt {now span : τ} (hnow : IsTime now) (hspan : IsTime span) (h : ¬ span < 0)
    (hlt : d < now) : d < now + span := by
  by_contra hnot
  exact not_lt_trans (isTime_add hnow hspan h) hnot (not_add_lt hnow hspan h) hlt

/-- The loop tells whether the clock is past the deadline. -/
lemma isLate_iff (hd : a.deadline = some d) (hnow : IsTime a.now) :
    a.isLate = true ↔ d < a.now := by
  have irrefl : ¬ (0 : τ) < 0 := fun hlt => not_lt_of_lt hlt hlt
  simp only [isLate, passesDeadline, hd, decide_eq_true_eq]
  exact ⟨lt_of_lt_add_zero, lt_add_of_lt hnow isTime_zero irrefl⟩

/-- Past the deadline, the loop does not wait. -/
lemma turn_of_early (t : InTime a) (hd : a.deadline = some d) (hlate : d < a.now)
    (hfirst : earliest? a.queue = some e) (hearly : a.now < e.due) : a.turn = .late := by
  have hdue := t.due e (mem_of_earliest? hfirst)
  have hpasses : a.passesDeadline (e.due - a.now) = true := by
    simp only [passesDeadline, hd, decide_eq_true_eq]
    exact lt_add_of_lt t.now (isTime_sub t.now hdue hearly) (not_sub_lt_zero t.now hdue hearly) hlate
  simp only [turn, hfirst, hearly, if_true, hpasses]

end Clock

/-! ## Every start of a drain -/

section Starts

variable {b : Behaviour τ κ ε μ} {d : τ} {exception : Prop}
  {run : Logged τ κ ε (Ending ε × Agenda τ κ × μ)}

lemma HeedsDeadline.nil (hlog : run.log = []) : HeedsDeadline b d exception run := by
  intro past mark rest event callback hsplit
  rw [hlog] at hsplit
  simp at hsplit

/-- Waiting starts nothing. -/
lemma HeedsDeadline.waited (heeds : HeedsDeadline b d False run) (before after : Agenda τ κ) :
    HeedsDeadline b d exception (run.after [⟨before, .waited, after⟩]) := by
  intro past mark rest event callback hsplit hstarted
  cases past with
  | nil =>
    obtain ⟨rfl, -⟩ := List.cons.inj hsplit
    cases hstarted
  | cons first past =>
    obtain ⟨hontime, hran⟩ := heeds past mark rest event callback (List.cons.inj hsplit).2 hstarted
    exact ⟨Or.inl (hontime.resolve_right fun h => h.2), hran⟩

/-- A start before a drain goes on, with what its callback did. -/
lemma HeedsDeadline.started (heeds : HeedsDeadline b d False run) {before after : Agenda τ κ}
    {event : Event τ κ} {callback : κ} {m : μ}
    (hontime : ¬ d < before.now ∧ ¬ d < event.due ∨ exception)
    (goesOn : GoesOn b d (b.called callback after m).result run) :
    HeedsDeadline b d exception
      (run.after (⟨before, .started event callback, after⟩ :: (b.called callback after m).log)) := by
  intro past mark rest event' callback' hsplit hstarted
  cases past with
  | nil =>
    obtain ⟨rfl, hrest⟩ := List.cons.inj hsplit
    obtain ⟨rfl, rfl⟩ := Deed.started.inj hstarted
    exact ⟨hontime.imp id fun h => ⟨rfl, h⟩, m, run, hrest.symm, rfl, goesOn⟩
  | cons first past =>
    -- the callback's own marks are no starts, so the start is one of those that follow
    have htail : (b.called callback after m).log ++ run.log = past ++ mark :: rest :=
      (List.cons.inj hsplit).2
    rcases List.append_eq_append_iff.mp htail with ⟨since, -, hrun⟩ | ⟨since, hcalled, hsince⟩
    · obtain ⟨hontime', hran⟩ := heeds since mark rest event' callback' hrun hstarted
      exact ⟨Or.inl (hontime'.resolve_right fun h => h.2), hran⟩
    · cases since with
      | nil =>
        obtain ⟨hontime', hran⟩ := heeds [] mark rest event' callback' hsince.symm hstarted
        exact ⟨Or.inl (hontime'.resolve_right fun h => h.2), hran⟩
      | cons other since =>
        obtain ⟨rfl, -⟩ := List.cons.inj hsince
        obtain ⟨op, reply, hasked⟩ := called_asked b callback after m mark
          (hcalled ▸ List.mem_append_right _ (List.mem_cons_self ..))
        rw [hasked] at hstarted
        cases hstarted

variable [Timeline τ]

/-- The loop goes on after a callback that left the deadline alone. -/
lemma goesOn_afterCallback (within : b.Within Op.Single fun _ => True) (turns : Nat)
    {ran : Ending ε × Agenda τ κ × μ} (hd : ran.2.1.deadline = some d) (hnow : IsTime ran.2.1.now) :
    GoesOn b d ran (afterCallback b.called turns ran) := by
  obtain ⟨ending, c, m⟩ := ran
  have hlate : c.isLate = true ↔ d < c.now := isLate_iff hd hnow
  refine ⟨afterCallback_raised, ?_, ?_⟩
  · rintro rfl hpast
    rw [afterCallback_done, if_pos (hlate.mpr hpast)]
  · rintro rfl hontime
    refine ⟨turns, ?_⟩
    have hsame : { c with deadline := some d } = c := by rw [← show c.deadline = some d from hd]
    rw [drained_eq within, hsame, afterCallback_done, if_neg (mt hlate.mp hontime)]

omit [Timeline τ] in
/-- In a consistent agenda, an event that is due has a callback to start. -/
lemma exists_callback {a : Agenda τ κ} {event : Event τ κ} (hc : a.Consistent)
    (hturn : a.turn = .fire event) : ∃ callback s, a.start event = (some callback, s) := by
  rcases hstart : a.start event with ⟨_ | callback, s⟩
  · have hchange : Change a (.dropped event : Deed τ κ Unit) s :=
      (Happens.dropped hturn hstart).change hc
    cases hchange
  · exact ⟨callback, s, rfl⟩

/-- What is known of an agenda in the loop is known of the one that a callback leaves, and the clock
has not been set back. -/
lemma called_inTime (within : b.Within Op.Single fun _ => True) {a s : Agenda τ κ}
    {event : Event τ κ} {callback : κ} {m : μ} (hc : a.Consistent) (ht : InTime a)
    (hd : a.deadline = some d) (hturn : a.turn = .fire event)
    (hstart : a.start event = (some callback, s))
    (hforward : ∀ mark ∈ (b.called callback s m).log, mark.deed.Forward) :
    let c := (b.called callback s m).result.2.1
    c.Consistent ∧ InTime c ∧ c.deadline = some d ∧ ¬ c.now < a.now := by
  have hchange : Change a (.started event callback : Deed τ κ ε) s :=
    (Happens.started hturn hstart).change hc
  obtain ⟨hnow, hdeadline⟩ := hchange.started_frame
  have hc' := hchange.consistent hc
  have hleads := called_leads within callback s m
  obtain ⟨htime, hclock⟩ := hleads.inTime hc' (hchange.inTime trivial ht).1 hforward
  exact ⟨(hleads.consistent hc').1, htime,
    (called_deadline within callback s m).trans (hdeadline.trans hd), hnow ▸ hclock⟩

/-- The loop heeds its deadline. -/
lemma drainTurnsLogged_heeds (within : b.Within Op.Single fun _ => True) (turns : Nat) :
    ∀ (exception : Prop) (a : Agenda τ κ) (m : μ), a.Consistent → InTime a →
      a.deadline = some d → (d < a.now → a.Overdue → exception) →
      (∀ mark ∈ (drainTurnsLogged b.called turns a m).log, mark.deed.Forward) →
      HeedsDeadline b d exception (drainTurnsLogged b.called turns a m) := by
  induction turns with
  | zero => exact fun _ _ _ _ _ _ _ _ => .nil rfl
  | succ turns ih =>
    intro exception a m hc ht hd hexception hforward
    cases hturn : a.turn with
    | idle =>
      rw [drainTurnsLogged_idle hturn]
      exact .nil rfl
    | late =>
      rw [drainTurnsLogged_late hturn]
      exact .nil rfl
    | wait moment =>
      rw [drainTurnsLogged_wait hturn] at hforward ⊢
      obtain ⟨e, hfirst, hearly, rfl, hontime⟩ := turn_eq_wait hturn
      have hchange : Change a (.waited : Deed τ κ ε) _ := .waited hfirst hearly
      simp only [passesDeadline, hd, decide_eq_false_iff_not] at hontime
      exact (ih False _ m (hchange.consistent hc) (hchange.inTime trivial ht).1 hd
        (fun hpast => absurd hpast hontime)
        fun mark hmark => hforward mark (List.mem_cons_of_mem _ hmark)).waited _ _
    | fire event =>
      obtain ⟨hfirst, hdue⟩ := turn_eq_fire hturn
      obtain ⟨callback, s, hstart⟩ := exists_callback hc hturn
      rw [drainTurnsLogged_fire hturn hstart] at hforward ⊢
      obtain ⟨hc', ht', hd', -⟩ := called_inTime within hc ht hd hturn hstart fun mark hmark =>
        hforward mark (List.mem_cons_of_mem _ (List.mem_append_left _ hmark))
      refine HeedsDeadline.started ?_ ?_ (goesOn_afterCallback within turns hd' ht'.now)
      · rcases hran : (b.called callback s m).result with ⟨_ | _ | error | _, c, m'⟩
        · rw [hran] at hd' hc' ht' hforward
          rw [afterCallback_done] at hforward ⊢
          by_cases hlate : c.isLate = true
          · rw [if_pos hlate]
            exact .nil rfl
          · rw [if_neg hlate] at hforward ⊢
            exact ih False c m' hc' ht' hd'
              (fun hpast => absurd ((isLate_iff hd' ht'.now).mpr hpast) hlate)
              fun mark hmark => hforward mark
                (List.mem_cons_of_mem _ (List.mem_append_right _ hmark))
        all_goals exact .nil rfl
      · by_cases hpast : d < a.now
        · exact Or.inr (hexception hpast ⟨event, hfirst, hdue⟩)
        · exact Or.inl ⟨hpast, not_lt_trans ht.now hpast hdue⟩

end Starts

/-! ## Whole drains -/

section Drains

variable {b : Behaviour τ κ ε μ} {d : τ} {turns : Nat} {a : Agenda τ κ} {e : Event τ κ} {m : μ}

/-- A drain that returns leaves nothing waiting. -/
lemma queue_nil_of_drained (hdone : (b.drained turns (some d) a m).result.1 = .done) :
    (b.drained turns (some d) a m).result.2.1.queue = [] := by
  rw [drained_result] at hdone ⊢
  have rule : TurnRule (b.invoke turns) (fun _ _ => True)
      fun ending a _ => ending = .done → a.queue = [] :=
    { endless := fun _ _ _ h => by cases h
      idle := fun _ _ _ hturn _ => turn_eq_idle hturn
      late := fun _ _ _ _ h => by cases h
      wait := fun _ _ _ _ _ => trivial
      dropped := fun _ _ _ s _ _ _ => by cases s.isLate <;> simp
      fired := fun _ _ _ _ _ c _ _ _ _ _ => by cases c.isLate <;> simp
      ended := fun _ _ _ _ _ _ _ _ _ _ _ _ hne h => absurd h hne }
  exact drainTurns_rule rule turns _ m trivial hdone

/-- A drain whose first event is due after the deadline, or later than a clock that is past the
deadline, only waits. It raises with nothing changed but the clock. -/
lemma late_of_early [Arriving τ] (turns : Nat) : ∀ a : Agenda τ κ, InTime a →
      a.deadline = some d → earliest? a.queue = some e →
      a.now < e.due → d < a.now ∨ d < e.due → Arriving.waits a.now e.due < turns →
      let run := drainTurnsLogged b.called turns a m
      (∃ moment, run.result = (.late, { a with now := moment }, m)) ∧
        ∀ mark ∈ run.log, mark.deed = .waited := by
  induction turns with
  | zero => exact fun _ _ _ _ _ _ hturns => absurd hturns (Nat.not_lt_zero _)
  | succ turns ih =>
    intro a ht hd hfirst hearly hafter hturns
    cases hturn : a.turn with
    | idle =>
      rw [turn_eq_idle hturn] at hfirst
      cases hfirst
    | late =>
      rw [drainTurnsLogged_late hturn]
      exact ⟨⟨a.now, rfl⟩, by simp⟩
    | fire event =>
      obtain ⟨hfirst', hdue⟩ := turn_eq_fire hturn
      obtain rfl := Option.some.inj (hfirst.symm.trans hfirst')
      exact absurd hearly hdue
    | wait moment =>
      obtain ⟨e', hfirst', -, rfl, hontime⟩ := turn_eq_wait hturn
      obtain rfl := Option.some.inj (hfirst.symm.trans hfirst')
      simp only [passesDeadline, hd, decide_eq_false_iff_not] at hontime
      have hchange : Change a (.waited : Deed τ κ ε) _ := .waited hfirst hearly
      have ht' := (hchange.inTime trivial ht).1
      have hdue := ht.due e (mem_of_earliest? hfirst)
      have hlate : d < e.due := hafter.resolve_left fun hpast => by
        rw [turn_of_early ht hd hpast hfirst hearly] at hturn
        cases hturn
      -- the wait was let in, so it fell short of the due time, and there is less to wait for
      have hearly' : a.now + (e.due - a.now) < e.due := by
        by_contra hnot
        exact not_lt_trans ht'.now hontime hnot hlate
      have hless := Arriving.waits_lt ht.now hdue hearly
      obtain ⟨⟨moment, hresult⟩, hlog⟩ := ih { a with now := a.now + (e.due - a.now) } ht' hd hfirst
        hearly' (Or.inr hlate) (by dsimp only; omega)
      rw [drainTurnsLogged_wait hturn]
      refine ⟨⟨moment, hresult⟩, fun mark hmark => ?_⟩
      rcases List.mem_cons.mp hmark with rfl | hrest
      · rfl
      · exact hlog mark hrest

/-- A drain that begins past its deadline starts the first event if it is due already, and nothing
after it. -/
lemma started_of_overdue [Timeline τ] (within : b.Within Op.Single fun _ => True)
    (hc : a.Consistent) (ht : InTime a) (hd : a.deadline = some d) (hpast : d < a.now)
    (hfirst : earliest? a.queue = some e) (hdue : ¬ a.now < e.due)
    (hforward : ∀ mark ∈ (drainTurnsLogged b.called (turns + 1) a m).log, mark.deed.Forward) :
    (drainTurnsLogged b.called (turns + 1) a m).log.filterMap (·.deed.startedEvent?) = [e] := by
  have hturn : a.turn = .fire e := by simp only [turn, hfirst, hdue, if_false]
  obtain ⟨callback, s, hstart⟩ := exists_callback hc hturn
  rw [drainTurnsLogged_fire hturn hstart] at hforward ⊢
  obtain ⟨-, ht', hd', hclock⟩ := called_inTime within hc ht hd hturn hstart fun mark hmark =>
    hforward mark (List.mem_cons_of_mem _ (List.mem_append_left _ hmark))
  -- the clock does not go back, so the loop stops after the callback
  have hpast' : d < (b.called callback s m).result.2.1.now := by
    by_contra hnot
    exact not_lt_trans ht'.now hnot hclock hpast
  have hgoes := goesOn_afterCallback within turns hd' ht'.now
  have hnext : (afterCallback b.called turns (b.called callback s m).result).log = [] := by
    by_cases hdone : (b.called callback s m).result.1 = .done
    · rw [hgoes.late hdone hpast']
    · rw [hgoes.raised hdone]
  have hcalled : (b.called callback s m).log.filterMap (·.deed.startedEvent?) = [] := by
    refine List.filterMap_eq_nil_iff.mpr fun mark hmark => ?_
    obtain ⟨op, reply, hasked⟩ := called_asked b callback s m mark hmark
    rw [hasked]
    rfl
  rw [Logged.after, hnext, List.append_nil]
  show e :: (b.called callback s m).log.filterMap (·.deed.startedEvent?) = [e]
  rw [hcalled]

/-- A drain heeds its deadline, from any agenda, at any clock, with callbacks that do not drain. Times
may be exact numbers or floats with rounded sums.

Each callback is started when neither the clock nor its due time is after the deadline; after it, the
drain raises when the clock is past the deadline. A drain whose first event is due after the deadline,
or after a clock that is past the deadline, starts nothing and raises, with the agenda unchanged but
for the clock. In no case it returns while something is waiting.

The exception is a first event that is due already when a drain begins past its deadline: this event
alone is started. -/
theorem deadline_heeded [Arriving τ] (within : b.Within Op.Single fun _ => True)
    (hc : a.Consistent) (ht : InTime a)
    (hforward : ∀ mark ∈ (b.drained turns (some d) a m).log, mark.deed.Forward) :
    let run := b.drained turns (some d) a m
    HeedsDeadline b d (d < a.now ∧ a.Overdue) run ∧
    (run.result.1 = .done → run.result.2.1.queue = []) ∧
    (∀ e, earliest? a.queue = some e → a.now < e.due → d < a.now ∨ d < e.due →
      Arriving.waits a.now e.due < turns →
      (∃ moment, run.result = (.late, { a with now := moment, deadline := some d }, m)) ∧
        ∀ mark ∈ run.log, mark.deed = .waited) ∧
    (∀ e, earliest? a.queue = some e → ¬ a.now < e.due → d < a.now → 0 < turns →
      run.log.filterMap (·.deed.startedEvent?) = [e]) := by
  intro run
  have hbegan : Change a (.began (some d) : Deed τ κ ε) _ := .began (some d)
  have hc' := hbegan.consistent hc
  have ht' := (hbegan.inTime trivial ht).1
  have hrun : run = drainTurnsLogged b.called turns { a with deadline := some d } m :=
    drained_eq within turns (some d) a m
  have hforward' : ∀ mark ∈ run.log, mark.deed.Forward := hforward
  refine ⟨?_, queue_nil_of_drained, fun e hfirst hearly hafter hturns => ?_,
    fun e hfirst hdue hpast hturns => ?_⟩
  · rw [hrun] at hforward' ⊢
    exact drainTurnsLogged_heeds within turns _ _ m hc' ht' rfl
      (fun hpast hdue => ⟨hpast, hdue⟩) hforward'
  · rw [hrun]
    exact late_of_early turns _ ht' rfl hfirst hearly hafter hturns
  · obtain ⟨turns, rfl⟩ := Nat.exists_eq_succ_of_ne_zero hturns.ne'
    rw [hrun] at hforward' ⊢
    exact started_of_overdue within hc' ht' rfl hpast hfirst hdue hforward'

end Drains

/-- Two timers, the first of which takes so long that the clock passes the deadline: the second one is
not started, although it is due by then. -/
theorem deadline_heeded_slow_callback :
    let b : Behaviour ℤ Bool Unit Unit :=
      ⟨fun _ _ m => m, fun slow _ _ =>
        if slow then .act (.advance 5) fun _ => .stop .done else .stop .done⟩
    let a : Agenda ℤ Bool :=
      (((Agenda.empty 0).callLater (.ok 1) (.callable true)).2.callLater (.ok 2) (.callable false)).2
    let run := b.drained 9 (some 4) a ()
    (b.Within Op.Single (fun _ => True) ∧ a.Consistent ∧ InTime a ∧
      (∀ mark ∈ run.log, mark.deed.Forward) ∧ run.result.1 = .late ∧
      run.log.filterMap (·.deed.startedEvent?.map (·.due)) = [1] ∧
      run.result.2.1.queue.map (·.due) = [2]) ∧
    HeedsDeadline b 4 (4 < a.now ∧ a.Overdue) run := by
  intro b a run
  have within : b.Within Op.Single fun _ => True
    | true, _, _ => ⟨trivial, fun _ => trivial⟩
    | false, _, _ => trivial
  have hc : a.Consistent := by
    have hfirst : Change (Agenda.empty 0) (.asked (.callLater (.ok 1) (.callable true)) _ :
      Deed ℤ Bool Unit) _ := callLater_change _ _
    have hsecond : Change _ (.asked (.callLater (.ok 2) (.callable false)) _ : Deed ℤ Bool Unit) a :=
      callLater_change _ _
    exact hsecond.consistent (hfirst.consistent (Consistent.empty 0))
  have ht : InTime a := ⟨trivial, fun _ _ => trivial, List.forall_mem_nil _⟩
  have hforward : ∀ mark ∈ run.log, mark.deed.Forward := by
    rw [← List.forall_iff_forall_mem]
    exact ⟨trivial, trivial, trivial, by decide⟩
  exact ⟨⟨within, hc, ht, hforward, by decide, by decide, by decide⟩,
    (deadline_heeded within hc ht hforward).1⟩

/-- On the clock of floats: a timer is registered to be due at 4.5, the clock is taken to 5, and a
drain to the deadline 4 starts the timer. -/
theorem deadline_missed :
    let b : Behaviour Float Unit Unit Unit := ⟨fun _ _ m => m, fun _ _ _ => .stop .done⟩
    let caller : Script (Op Float Unit) (Reply Unit) Unit :=
      .act (.callLater (.ok 4.5) (.callable ())) fun _ =>
      .act (.advance 5) fun _ =>
      .act (.drain (some 4)) fun _ => .stop ()
    ((b.session 3 caller (.empty 0) ()).log.filterMap fun mark =>
      mark.deed.startedEvent?.map fun e => (decide (4 < e.due), decide (4 < mark.before.now)))
      = [(true, true)] := by
  decide

end SnippetRunner.Timer
