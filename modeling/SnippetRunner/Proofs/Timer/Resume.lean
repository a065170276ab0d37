import SnippetRunner.Proofs.Timer.Deadline

/-!
# Stopping a drain and resuming it

A drain to a deadline, followed by a drain to a later one, does what a single drain to the later one
does: the deadline stops the loop without touching what is waiting. If it was a callback's error that
stopped the loop, then draining again goes on as the loop would have gone on after a callback that
returned there.

Both are shown turn by turn. `turnLogged` is one turn of the loop, and `drainTurnsLogged_succ` says
that a run is a turn followed by a run. The callbacks register and cancel timers, but they neither
move the clock nor look at the deadline.
-/

namespace SnippetRunner.Timer

open Agenda Timeline

variable {τ κ ε μ α : Type} [Add τ] [Sub τ] [LT τ] [DecidableLT τ] [Zero τ]

/-! ## Two deadlines -/

section Deadlines

variable [Timeline τ] {b : Behaviour τ κ ε μ} {a : Agenda τ κ} {d d₁ d₂ : τ}

lemma isLate_eq_false (hd : a.deadline = some d) (hahead : ¬ d < a.now) : a.isLate = false := by
  simp only [isLate, passesDeadline, hd, decide_eq_false_iff_not]
  exact fun hlt => hahead (lt_of_lt_add_zero hlt)

omit [Sub τ] [Timeline τ] in
/-- Only a clock past the deadline stops the loop after what ended well. -/
lemma stops_eq {c : Agenda τ κ} {ending : Ending ε} (ha : a.isLate = false) (hc : c.isLate = false)
    (hended : ending ≠ .late) : ending.stops a ≠ some .late ∧ ending.stops c = ending.stops a := by
  cases ending with
  | late => exact absurd rfl hended
  | _ => simp [Ending.stops, ha, hc]

/-- What the loop does before a deadline it does before a later one. -/
lemma turn_withDeadline (hd : a.deadline = some d₁) (hd₁ : IsTime d₁) (hle : ¬ d₂ < d₁)
    (hturn : a.turn ≠ .late) : (a.withDeadline (some d₂)).turn = a.turn := by
  unfold turn at hturn ⊢
  simp only [Agenda.withDeadline]
  cases hfirst : earliest? a.queue with
  | none => rfl
  | some e =>
    by_cases hearly : a.now < e.due
    · simp only [hfirst, hearly, if_true, passesDeadline, hd] at hturn ⊢
      by_cases hpasses : d₁ < a.now + (e.due - a.now)
      · simp [hpasses] at hturn
      · have hpasses' := not_lt_trans hd₁ hle hpasses
        simp only [hpasses, hpasses', decide_false]
    · simp only [hearly, if_false]

omit [Timeline τ] in
/-- A turn before the deadline leaves the clock before it. -/
lemma turnLogged_ahead (within : b.Within Op.Arranges (· ≠ .late)) (hd : a.deadline = some d)
    (hahead : ¬ d < a.now) (m : μ) :
    let next := (turnLogged b.called a m).result.2.1
    next.deadline = some d ∧ ¬ d < next.now := by
  have single : b.Within Op.Single (· ≠ .late) := within.mono (fun _ h => h.single) fun _ h => h
  cases hturn : a.turn with
  | idle =>
    rw [turnLogged_idle hturn]
    exact ⟨hd, hahead⟩
  | late =>
    rw [turnLogged_late hturn]
    exact ⟨hd, hahead⟩
  | wait moment =>
    obtain ⟨e, -, -, rfl, hontime⟩ := turn_eq_wait hturn
    simp only [passesDeadline, hd, decide_eq_false_iff_not] at hontime
    rw [turnLogged_wait hturn]
    exact ⟨hd, hontime⟩
  | fire event =>
    obtain ⟨hnow, hdeadline⟩ := start_frame a event
    rcases hstart : a.start event with ⟨_ | callback, s⟩ <;> rw [hstart] at hnow hdeadline
    · rw [turnLogged_drop hturn hstart]
      exact ⟨hdeadline.trans hd, hnow ▸ hahead⟩
    · rw [turnLogged_start hturn hstart]
      exact ⟨(called_deadline single callback s m).trans (hdeadline.trans hd),
        (called_now within callback s m).trans hnow ▸ hahead⟩

/-- A turn either stops at the first deadline, with nothing done, or is the same with both. -/
lemma turnLogged_deadlines (within : b.Within Op.Arranges (· ≠ .late)) (blind : b.Blind)
    (hd : a.deadline = some d₁) (hahead : ¬ d₁ < a.now) (hd₁ : IsTime d₁) (hle : ¬ d₂ < d₁) (m : μ) :
    turnLogged b.called a m = ⟨[], some .late, a, m⟩ ∨
    (turnLogged b.called a m).result.1 ≠ some .late ∧
      turnLogged b.called (a.withDeadline (some d₂)) m
        = (turnLogged b.called a m).withDeadline (some d₂) := by
  have single : b.Within Op.Single (· ≠ .late) := within.mono (fun _ h => h.single) fun _ h => h
  by_cases hlate : a.turn = .late
  · exact Or.inl (turnLogged_late hlate)
  refine Or.inr ?_
  have hturn' := turn_withDeadline hd hd₁ hle hlate
  cases hturn : a.turn with
  | idle =>
    rw [turnLogged_idle hturn, turnLogged_idle (hturn'.trans hturn)]
    exact ⟨by simp, rfl⟩
  | late => exact absurd hturn hlate
  | wait moment =>
    rw [turnLogged_wait hturn, turnLogged_wait (hturn'.trans hturn)]
    exact ⟨by simp, rfl⟩
  | fire event =>
    have hstart' := start_withDeadline a (some d₂) event
    obtain ⟨hnow, hdeadline⟩ := start_frame a event
    rcases hstart : a.start event with ⟨_ | callback, s⟩ <;>
      rw [hstart] at hnow hdeadline hstart'
    · have hahead' : ¬ d₁ < s.now := hnow ▸ hahead
      have hended : (Ending.done : Ending ε) ≠ .late := by simp
      obtain ⟨hnever, hsame⟩ := stops_eq (isLate_eq_false (hdeadline.trans hd) hahead')
        (isLate_eq_false (a := s.withDeadline (some d₂)) rfl (not_lt_trans hd₁ hle hahead')) hended
      rw [turnLogged_drop hturn hstart, turnLogged_drop (hturn'.trans hturn) hstart', hsame]
      exact ⟨hnever, rfl⟩
    · have hdeadline' := (called_deadline single callback s m).trans (hdeadline.trans hd)
      have hahead' : ¬ d₁ < (b.called callback s m).result.2.1.now := by
        rw [called_now within, hnow]
        exact hahead
      obtain ⟨hnever, hsame⟩ := stops_eq (isLate_eq_false hdeadline' hahead')
        (isLate_eq_false (a := (b.called callback s m).result.2.1.withDeadline (some d₂)) rfl
          (not_lt_trans hd₁ hle hahead')) (called_ends single callback s m)
      rw [turnLogged_start hturn hstart, turnLogged_start (hturn'.trans hturn) hstart',
        called_withDeadline single blind]
      refine ⟨hnever, ?_⟩
      simp only [Logged.withDeadline, List.map_cons, hsame]
      rfl

/-- A run to the first deadline is the run to the second one, unless it stops at the deadline; then
the run to the second one goes on from there. -/
lemma drainTurnsLogged_deadlines (within : b.Within Op.Arranges (· ≠ .late)) (blind : b.Blind)
    (hd₁ : IsTime d₁) (hle : ¬ d₂ < d₁) (turns : Nat) : ∀ (a : Agenda τ κ) (m : μ),
      a.deadline = some d₁ → ¬ d₁ < a.now →
      let first := drainTurnsLogged b.called turns a m
      let whole := drainTurnsLogged b.called turns (a.withDeadline (some d₂)) m
      first.result.1 ≠ .late ∧ whole = first.withDeadline (some d₂) ∨
      first.result.1 = .late ∧ ∃ left more, left + more = turns ∧
        whole = (drainTurnsLogged b.called left (first.result.2.1.withDeadline (some d₂))
          first.result.2.2).after (first.log.map (Mark.withDeadline (some d₂))) := by
  induction turns with
  | zero => exact fun a m _ _ => Or.inl ⟨by simp [drainTurnsLogged], rfl⟩
  | succ turns ih =>
    intro a m hd hahead
    simp only [drainTurnsLogged_succ]
    rcases turnLogged_deadlines within blind hd hahead hd₁ hle m with hstop | ⟨hnever, hsame⟩
    · right
      rw [hstop]
      exact ⟨rfl, turns + 1, 0, rfl, (drainTurnsLogged_succ turns _ m).symm⟩
    rw [hsame]
    obtain ⟨hdeadline, hnext⟩ := turnLogged_ahead within hd hahead m
    generalize turnLogged b.called a m = turn at *
    obtain ⟨log, _ | ending, c, m'⟩ := turn
    · simp only [Logged.followedBy, Logged.withDeadline] at hdeadline hnext ⊢
      rcases ih c m' hdeadline hnext with ⟨hended, hwhole⟩ | ⟨hlate, left, more, hturns, hwhole⟩
      · left
        rw [hwhole]
        exact ⟨hended, by simp [Logged.after, Logged.withDeadline]⟩
      · right
        rw [hwhole]
        exact ⟨hlate, left, more + 1, by omega, by simp [Logged.after]⟩
    · left
      exact ⟨fun hended => hnever (congrArg some hended), rfl⟩

end Deadlines

/-! ## Draining on after an error -/

/-- How work would have ended without its error. -/
def Ending.forgiven : Ending ε → Ending ε
  | .failed _ => .done
  | ending => ending

/-- The same behaviour, but it counts the callbacks that are started, and the `n`-th one returns where
it would raise. -/
def Behaviour.forgiving (b : Behaviour τ κ ε μ) (n : Nat) : Behaviour τ κ ε (μ × Nat) where
  note callback a s := (b.note callback a s.1, s.2 + 1)
  script callback a s :=
    if s.2 = n then (b.script callback a s.1).bind fun ending => .stop ending.forgiven
    else b.script callback a s.1

/-- A result with a count beside the memory. -/
def Logged.counted (r : Logged τ κ ε (α × Agenda τ κ × μ)) (i : Nat) :
    Logged τ κ ε (α × Agenda τ κ × μ × Nat) :=
  ⟨r.log, r.result.1, r.result.2.1, r.result.2.2, i⟩

/-- How many callbacks are started in a history. -/
def startCount (log : List (Mark τ κ ε)) : Nat := log.countP (·.deed.startedEvent?.isSome)

section Forgiving

variable {b : Behaviour τ κ ε μ} {a : Agenda τ κ} {m : μ} {d : τ} {n i : Nat} {error : ε}

omit [Add τ] [Sub τ] [LT τ] [DecidableLT τ] [Zero τ] in
lemma startCount_append (log log' : List (Mark τ κ ε)) :
    startCount (log ++ log') = startCount log + startCount log' := List.countP_append

omit [Sub τ] in
/-- A callback is one start, whatever it asks for. -/
lemma startCount_started (b : Behaviour τ κ ε μ) (event : Event τ κ) (callback : κ)
    (a s : Agenda τ κ) (m : μ) :
    startCount (⟨a, .started event callback, s⟩ :: (b.called callback s m).log) = 1 := by
  have hnone : startCount (b.called callback s m).log = 0 := by
    refine List.countP_eq_zero.mpr fun mark hmark => ?_
    obtain ⟨op, reply, hasked⟩ := called_asked b callback s m mark hmark
    simp [hasked, Deed.startedEvent?]
  rw [startCount, List.countP_cons, ← startCount, hnone]
  rfl

omit [Sub τ] in
lemma runSingle_bind_stop {β : Type} (f : α → β) (script : Script (Op τ κ) (Reply ε) α) :
    ∀ a : Agenda τ κ, runSingle (script.bind fun result => .stop (f result)) a
      = ⟨(runSingle script a).log, f (runSingle script a).result.1,
        (runSingle script a).result.2⟩ := by
  induction script with
  | stop result => exact fun a => rfl
  | act op next ih =>
    intro a
    rw [Script.bind, runSingle, ih]
    rfl

omit [Sub τ] in
lemma called_forgiving (callback : κ) (a : Agenda τ κ) (m : μ) :
    (b.forgiving n).called callback a (m, i)
      = ⟨(b.called callback a m).log,
          if i + 1 = n then (b.called callback a m).result.1.forgiven
          else (b.called callback a m).result.1,
          (b.called callback a m).result.2.1, (b.called callback a m).result.2.2, i + 1⟩ := by
  unfold Behaviour.called Behaviour.forgiving
  by_cases hn : i + 1 = n
  · simp only [hn, if_true, runSingle_bind_stop]
  · simp only [hn, if_false]

/-- A turn without the `n`-th start is the same with the forgiving behaviour. -/
lemma turnLogged_forgiving (a : Agenda τ κ) (m : μ)
    (hcount : startCount (turnLogged b.called a m).log = 0 ∨
      i + startCount (turnLogged b.called a m).log ≠ n) :
    turnLogged (b.forgiving n).called a (m, i) = (turnLogged b.called a m).counted
      (i + startCount (turnLogged b.called a m).log) := by
  cases hturn : a.turn with
  | idle =>
    rw [turnLogged_idle hturn, turnLogged_idle hturn]
    rfl
  | late =>
    rw [turnLogged_late hturn, turnLogged_late hturn]
    rfl
  | wait moment =>
    rw [turnLogged_wait hturn, turnLogged_wait hturn]
    rfl
  | fire event =>
    rcases hstart : a.start event with ⟨_ | callback, s⟩
    · rw [turnLogged_drop hturn hstart, turnLogged_drop hturn hstart]
      rfl
    · rw [turnLogged_start hturn hstart, startCount_started] at hcount
      rw [turnLogged_start hturn hstart, turnLogged_start hturn hstart, startCount_started,
        called_forgiving, if_neg (hcount.resolve_left one_ne_zero)]
      rfl

/-- A turn that fails in the `n`-th start goes on with the forgiving behaviour. -/
lemma turnLogged_forgiven [Timeline τ] (within : b.Within Op.Arranges (· ≠ .late))
    (hd : a.deadline = some d) (hahead : ¬ d < a.now)
    (hfailed : (turnLogged b.called a m).result.1 = some (.failed error)) :
    startCount (turnLogged b.called a m).log = 1 ∧
      turnLogged (b.forgiving (i + 1)).called a (m, i)
        = ⟨(turnLogged b.called a m).log, none, (turnLogged b.called a m).result.2.1,
          (turnLogged b.called a m).result.2.2, i + 1⟩ := by
  have hontime : (turnLogged b.called a m).result.2.1.isLate = false :=
    isLate_eq_false (turnLogged_ahead within hd hahead m).1 (turnLogged_ahead within hd hahead m).2
  cases hturn : a.turn with
  | idle => simp [turnLogged_idle hturn] at hfailed
  | late => simp [turnLogged_late hturn] at hfailed
  | wait moment => simp [turnLogged_wait hturn] at hfailed
  | fire event =>
    rcases hstart : a.start event with ⟨_ | callback, s⟩
    · rw [turnLogged_drop hturn hstart] at hfailed
      simp only [Ending.stops] at hfailed
      split_ifs at hfailed
      cases hfailed
    · rw [turnLogged_start hturn hstart] at hfailed hontime
      have hended : (b.called callback s m).result.1 = .failed error := by
        cases hended : (b.called callback s m).result.1 with
        | done =>
          simp only [hended, Ending.stops, hontime, Bool.false_eq_true, if_false] at hfailed
          cases hfailed
        | _ =>
          simp only [hended] at hfailed
          exact Option.some.inj hfailed
      rw [turnLogged_start hturn hstart, turnLogged_start hturn hstart, called_forgiving,
        if_pos rfl, hended]
      refine ⟨startCount_started b event callback a s m, ?_⟩
      simp only [Ending.forgiven, Ending.stops, hontime, Bool.false_eq_true, if_false]

/-- After the `n`-th start, the forgiving behaviour does what the other one does. -/
lemma drainTurnsLogged_after_forgiven (turns : Nat) : ∀ (a : Agenda τ κ) (m : μ) (i : Nat), n ≤ i →
    drainTurnsLogged (b.forgiving n).called turns a (m, i)
      = (drainTurnsLogged b.called turns a m).counted
        (i + startCount (drainTurnsLogged b.called turns a m).log) := by
  induction turns with
  | zero => exact fun a m i _ => rfl
  | succ turns ih =>
    intro a m i hi
    rw [drainTurnsLogged_succ, drainTurnsLogged_succ, turnLogged_forgiving a m (by omega)]
    generalize turnLogged b.called a m = turn
    obtain ⟨log, _ | ending, c, m'⟩ := turn
    · simp only [Logged.followedBy, Logged.counted]
      rw [ih c m' _ (by omega)]
      simp only [Logged.counted, Logged.after, startCount_append, Nat.add_assoc]
    · rfl

/-- A run that fails goes on with the forgiving behaviour as a new run does from where it failed. -/
lemma drainTurnsLogged_forgiving [Timeline τ] (within : b.Within Op.Arranges (· ≠ .late))
    (turns : Nat) : ∀ (a : Agenda τ κ) (m : μ) (i : Nat), a.deadline = some d → ¬ d < a.now →
      let first := drainTurnsLogged b.called turns a m
      first.result.1 = .failed error → i + startCount first.log = n →
      i < n ∧ first.result.2.1.deadline = some d ∧ ∃ used, ∀ more,
        let again := drainTurnsLogged b.called more first.result.2.1 first.result.2.2
        drainTurnsLogged (b.forgiving n).called (used + more) a (m, i)
          = (again.counted (n + startCount again.log)).after first.log := by
  induction turns with
  | zero =>
    intro a m i _ _ first hfailed
    cases hfailed
  | succ turns ih =>
    intro a m i hd hahead first hfailed hcount
    obtain ⟨hdeadline, hnext⟩ := turnLogged_ahead within hd hahead m
    have hfirst : first = (turnLogged b.called a m).followedBy (drainTurnsLogged b.called turns) :=
      drainTurnsLogged_succ turns a m
    clear_value first
    subst hfirst
    rcases hturn : turnLogged b.called a m with ⟨log, _ | ending, c, m'⟩
    · -- the turn is not the one that fails, so the forgiving behaviour takes it alike
      rw [hturn] at hdeadline hnext hfailed hcount
      simp only [Logged.followedBy, Logged.after, startCount_append] at hfailed hcount
      obtain ⟨hlt, hsame, used, hagain⟩ := ih c m' (i + startCount log) hdeadline hnext hfailed
        (by omega)
      have hturn' := turnLogged_forgiving (b := b) (n := n) (i := i) a m
        (Or.inr (by rw [hturn]; simp only; omega))
      refine ⟨by omega, hsame, used + 1, fun more => ?_⟩
      rw [Nat.add_right_comm, drainTurnsLogged_succ, hturn', hturn]
      simp only [Logged.followedBy, Logged.counted, hagain more, Logged.after, List.append_assoc]
    · rw [hturn] at hdeadline hfailed hcount
      simp only [Logged.followedBy] at hfailed hcount
      subst hfailed
      obtain ⟨hone, hforgiven⟩ := turnLogged_forgiven (i := i) (m := m) within hd hahead
        (by rw [hturn])
      rw [hturn] at hone hforgiven
      simp only at hone hforgiven
      obtain rfl : i + 1 = n := by omega
      refine ⟨by omega, hdeadline, 1, fun more => ?_⟩
      rw [Nat.add_comm 1 more, drainTurnsLogged_succ, hforgiven]
      simp only [Logged.followedBy, drainTurnsLogged_after_forgiven more c m' (i + 1) le_rfl]

end Forgiving

/-! ## Whole drains -/

section Drains

variable [Timeline τ] {b : Behaviour τ κ ε μ}

omit [Add τ] [Sub τ] [LT τ] [DecidableLT τ] [Zero τ] [Timeline τ] in
lemma forgiving_within (within : b.Within Op.Arranges (· ≠ .late)) (n : Nat) :
    (b.forgiving n).Within Op.Single fun _ => True := by
  intro callback a s
  have hsingle : (b.script callback a s.1).Within Op.Single fun _ => True :=
    (within callback a s.1).mono (fun _ h => h.single) fun _ _ => trivial
  show Script.Within _ _ (if s.2 = n then _ else _)
  split
  · refine hsingle.bind ?_
    exact fun _ _ => trivial
  · exact hsingle

/-- A drain can be stopped at a deadline and resumed to a later one, with callbacks that register and
cancel timers but do not move the clock, drain or close. The errors that they raise are all `.failed`,
so `.late` is the deadline's own.

Whenever the drain to the later deadline ends, and the one to the first deadline does not stop with an
error, the two after one another do what the single drain does: they start the same callbacks in the
same order at the same clock, and end with the same agenda, memory and result.

If the first drain stops with an error, then draining again to the same deadline goes on as that drain
would have gone on if its last callback had returned where it raised. -/
theorem drain_resumed (within : b.Within Op.Arranges (· ≠ .late)) (blind : b.Blind) (d₁ d₂ : τ)
    (turns : Nat) (a : Agenda τ κ) (m : μ) (hd₁ : IsTime d₁) (hahead : ¬ d₁ < a.now)
    (hle : ¬ d₂ < d₁) :
    let whole := b.drained turns (some d₂) a m
    let first := b.drained turns (some d₁) a m
    (whole.result.1 ≠ .endless → (∀ error, first.result.1 ≠ .failed error) →
      let second := b.drained turns (some d₂) first.result.2.1 first.result.2.2
      first.result.1 ≠ .endless ∧ second.result = whole.result ∧
        first.log.map (Mark.withDeadline (some d₂)) ++ second.log = whole.log) ∧
    (∀ error, first.result.1 = .failed error → ∃ used, ∀ more,
      let n := startCount first.log
      let forgiven := (b.forgiving n).drained (used + more) (some d₁) a (m, 0)
      let again := b.drained more (some d₁) first.result.2.1 first.result.2.2
      forgiven = (again.counted (n + startCount again.log)).after first.log) := by
  intro whole first
  have single : b.Within Op.Single (· ≠ .late) := within.mono (fun _ h => h.single) fun _ h => h
  have hfirst : first = drainTurnsLogged b.called turns (a.withDeadline (some d₁)) m :=
    drained_eq single turns (some d₁) a m
  have hwhole : whole = drainTurnsLogged b.called turns
      ((a.withDeadline (some d₁)).withDeadline (some d₂)) m :=
    drained_eq single turns (some d₂) a m
  constructor
  · intro hends hnofail second
    have hsecond : second = drainTurnsLogged b.called turns
        (first.result.2.1.withDeadline (some d₂)) first.result.2.2 :=
      drained_eq single turns (some d₂) _ _
    rcases drainTurnsLogged_deadlines within blind hd₁ hle turns (a.withDeadline (some d₁)) m rfl
      hahead with ⟨hended, hsame⟩ | ⟨hlate, left, more, hturns, hsame⟩
    all_goals rw [← hwhole, ← hfirst] at hsame
    · rw [← hfirst] at hended
      rw [hsame] at hends ⊢
      cases hresult : first.result.1 with
      | done =>
        -- nothing is waiting any more, so the second drain has nothing to do
        have hqueue : first.result.2.1.queue = [] := queue_nil_of_drained hresult
        have hidle : (first.result.2.1.withDeadline (some d₂)).turn = .idle := by
          simp only [turn, Agenda.withDeadline, hqueue, earliest?]
        cases turns with
        | zero => cases hresult
        | succ turns =>
          rw [hsecond, drainTurnsLogged_idle hidle, Logged.withDeadline, hresult, List.append_nil]
          exact ⟨by simp, rfl, rfl⟩
      | late => exact absurd hresult hended
      | failed error => exact absurd hresult (hnofail error)
      | endless => exact absurd hresult hends
    · rw [← hfirst] at hlate
      rw [hsame] at hends ⊢
      rw [hsecond, ← hturns, drainTurnsLogged_add left more _ _ hends]
      exact ⟨by rw [hlate]; simp, rfl, rfl⟩
  · intro error hfailed
    obtain ⟨-, hdeadline, used, hagain⟩ := drainTurnsLogged_forgiving (n := startCount first.log)
      within turns (a.withDeadline (some d₁)) m 0 rfl hahead (hfirst ▸ hfailed) (by rw [hfirst]; omega)
    rw [← hfirst] at hdeadline hagain
    refine ⟨used, ?_⟩
    intro more n forgiven again
    have hforgiven : forgiven = drainTurnsLogged (b.forgiving n).called (used + more)
        (a.withDeadline (some d₁)) (m, 0) :=
      drained_eq (forgiving_within within n) (used + more) (some d₁) a (m, 0)
    have hsame : { first.result.2.1 with deadline := some d₁ } = first.result.2.1 := by
      rw [← hdeadline]
    have hagain' : again = drainTurnsLogged b.called more first.result.2.1 first.result.2.2 := by
      rw [show again = _ from drained_eq single more (some d₁) _ _, hsame]
    rw [hforgiven, hagain more, hagain']

end Drains

/-- A callback at 1 and another at 4 each register one for 2 later, which raises. A drain that is
stopped at 2 and resumed to 9 ends as the drain to 9 does, with the error at 3; and a drain to 5, which
fails at 3, goes on at 4 when it is repeated. -/
theorem drain_resumed_around_error :
    let b : Behaviour ℤ Bool Unit Unit :=
      ⟨fun _ _ m => m, fun registers _ _ =>
        if registers then .act (.callLater (.ok 2) (.callable false)) fun _ => .stop .done
        else .stop (.failed ())⟩
    let a : Agenda ℤ Bool :=
      (((Agenda.empty 0).callLater (.ok 1) (.callable true)).2.callLater (.ok 4) (.callable true)).2
    let whole := b.drained 9 (some 9) a ()
    let stopped := b.drained 9 (some 2) a ()
    let failed := b.drained 9 (some 5) a ()
    (b.Within Op.Arranges (· ≠ .late) ∧ b.Blind ∧ whole.result.1 = .failed () ∧
      stopped.result.1 = .late ∧
      (b.drained 9 (some 9) stopped.result.2.1 stopped.result.2.2).result = whole.result) ∧
    failed.result.1 = .failed () ∧ ∃ used, ∀ more,
      let again := b.drained more (some 5) failed.result.2.1 failed.result.2.2
      (b.forgiving 2).drained (used + more) (some 5) a ((), 0)
        = (again.counted (2 + startCount again.log)).after failed.log := by
  intro b a whole stopped failed
  have within : b.Within Op.Arranges (· ≠ .late)
    | true, _, _ => ⟨trivial, fun _ h => nomatch h⟩
    | false, _, _ => fun h => nomatch h
  have blind : b.Blind := fun _ _ _ _ => ⟨rfl, rfl⟩
  have hwhole : whole.result.1 = .failed () := by decide
  have hstopped : stopped.result.1 = .late := by decide
  have hfailed : failed.result.1 = .failed () := by decide
  obtain ⟨hresumed, -⟩ := drain_resumed within blind 2 9 9 a () trivial (by decide) (by decide)
  obtain ⟨-, hagain⟩ := drain_resumed within blind 5 9 9 a () trivial (by decide) (by decide)
  obtain ⟨-, hsame, -⟩ := hresumed (fun h => nomatch hwhole.symm.trans h)
    fun _ h => nomatch hstopped.symm.trans h
  exact ⟨⟨within, blind, hwhole, hstopped, hsame⟩, hfailed, hagain () hfailed⟩

end SnippetRunner.Timer
