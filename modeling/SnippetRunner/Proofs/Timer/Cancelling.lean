import SnippetRunner.Proofs.Timer.Callbacks
import SnippetRunner.Timer.Delay

/-!
# Two ways to cancel

A repeating timer that is cancelled like a one-shot one loses its event and keeps its interval. The
interval is never looked at again: no event of its handle is left, and the handle is not given out a
second time.

* `Agenda.seen` is what callers and callbacks can learn of an agenda, and `Logged.seen` what they
  can learn of a history, where both ways to cancel count as one.
* `Alike` relates agendas that differ in intervals without an event only. The two ways to cancel lead
  to agendas that are alike (`Consistent.cancelCall_alike`), and this is kept by every operation
  (`Alike.leaves`), by every turn of the drain loop (`turnLogged_alike`) and by whole sessions
  (`session_alike`).
* `cancellations_interchangeable` is what this means for every agenda that a history reaches.
-/

namespace SnippetRunner.Timer

open Agenda

variable {τ κ ε μ α : Type}

/-! ## What is seen of a history -/

/-- What is seen of an agenda: everything but the intervals, which no operation hands out. -/
def Agenda.seen (a : Agenda τ κ) : Agenda τ κ := { a with intervals := [] }

/-- An operation, where both ways to cancel count as one. -/
def Op.seen : Op τ κ → Op τ κ
  | .cancelEvery key => .cancelCall key
  | op => op

/-- A deed, where both ways to cancel count as one. -/
def Deed.seen : Deed τ κ ε → Deed τ κ ε
  | .asked op reply => .asked op.seen reply
  | deed => deed

/-- What is seen of a mark. -/
def Mark.seen (mark : Mark τ κ ε) : Mark τ κ ε :=
  ⟨mark.before.seen, mark.deed.seen, mark.after.seen⟩

/-- What is seen of a history and its result. -/
def Logged.seen (r : Logged τ κ ε (α × Agenda τ κ × μ)) : Logged τ κ ε (α × Agenda τ κ × μ) :=
  ⟨r.log.map Mark.seen, r.result.1, r.result.2.1.seen, r.result.2.2⟩

/-- Whether an operation cancels a key, in either way. -/
def Op.Cancels (op : Op τ κ) (key : Key) : Prop := op = .cancelCall key ∨ op = .cancelEvery key

/-- Whether an operation cancels, if at all, by an integer. -/
def Op.ByInteger (op : Op τ κ) : Prop := ∀ key, op.Cancels key → ∃ n : Int, key = keyOfInt n

/-- Whether two scripts ask for the same at every point, but for the way in which they cancel. -/
inductive Exchanged : Script (Op τ κ) (Reply ε) α → Script (Op τ κ) (Reply ε) α → Prop where
  | stop (result : α) : Exchanged (.stop result) (.stop result)
  | act {op op' : Op τ κ} {next next' : Reply ε → Script (Op τ κ) (Reply ε) α}
      (same : op'.seen = op.seen) (byInteger : op.ByInteger)
      (rest : ∀ reply, Exchanged (next reply) (next' reply)) :
      Exchanged (.act op next) (.act op' next')

/-- Whether two behaviours are the same, but for the way in which callbacks cancel. Neither looks at
what is not seen. -/
structure Behaviour.Exchanged (b b' : Behaviour τ κ ε μ) : Prop where
  note : ∀ callback a c m, c.seen = a.seen → b'.note callback c m = b.note callback a m
  script : ∀ callback a c m, c.seen = a.seen →
    Timer.Exchanged (b.script callback a m) (b'.script callback c m)

/-! ## Agendas that are alike -/

/-- Two agendas that differ only in intervals that no event waits for. -/
structure Agenda.Alike (a c : Agenda τ κ) : Prop where
  left : a.Consistent
  right : c.Consistent
  seen : c.seen = a.seen
  interval : ∀ e ∈ a.queue, e.action = .again →
    find? c.intervals e.handle = find? a.intervals e.handle

namespace Agenda.Alike

variable {a b c : Agenda τ κ} {h : Nat}

lemma eq_with (s : a.Alike c) : c = { a with intervals := c.intervals } := by
  obtain ⟨now, queue, events, intervals, nextHandle, nextOrder, deadline, closed⟩ := c
  have hseen := s.seen
  simp only [Agenda.seen, Agenda.mk.injEq, true_and] at hseen
  simp only [hseen]

lemma queue_eq (s : a.Alike c) : c.queue = a.queue := congrArg (·.queue) s.seen

lemma events_eq (s : a.Alike c) : c.events = a.events := congrArg (·.events) s.seen

lemma refl (consistent : a.Consistent) : a.Alike a :=
  ⟨consistent, consistent, rfl, fun _ _ _ => rfl⟩

lemma symm (s : a.Alike c) : c.Alike a where
  left := s.right
  right := s.left
  seen := s.seen.symm
  interval e he haction := (s.interval e (s.queue_eq ▸ he) haction).symm

lemma trans (s : a.Alike b) (s' : b.Alike c) : a.Alike c where
  left := s.left
  right := s'.right
  seen := s'.seen.trans s.seen
  interval e he haction :=
    (s'.interval e (s.queue_eq ▸ he) haction).trans (s.interval e he haction)

lemma accept_eq (s : a.Alike c) (target : Target κ) : c.accept target = a.accept target := by
  rw [s.eq_with]
  cases target <;> rfl

lemma turn_eq [Add τ] [Sub τ] [LT τ] [DecidableLT τ] (s : a.Alike c) : c.turn = a.turn := by
  rw [s.eq_with]
  rfl

lemma isLate_eq [Add τ] [LT τ] [DecidableLT τ] [Zero τ] (s : a.Alike c) : c.isLate = a.isLate := by
  rw [s.eq_with]
  rfl

lemma removeEvent (s : a.Alike c) : (a.removeEvent h).Alike (c.removeEvent h) where
  left := s.left.removeEvent
  right := s.right.removeEvent
  seen := by
    rw [s.eq_with]
    unfold Agenda.removeEvent
    dsimp only
    split <;> rfl
  interval e he haction := by
    rw [removeEvent_intervals, removeEvent_intervals]
    exact s.interval e (removeEvent_queue_sublist.subset he) haction

/-- An event can be entered on both, if they have the same interval for it. -/
lemma enter [Add τ] {d : τ} {action : Action κ} (s : a.Alike c) (hfree : ¬ a.Pending h)
    (hlt : h < a.nextHandle) (hinterval : action = .again → ∃ interval,
      find? a.intervals h = some interval ∧ find? c.intervals h = some interval) :
    (a.enter d h action).Alike (c.enter d h action) where
  left := s.left.enter hfree hlt fun haction =>
    (hinterval haction).imp fun _ hfound => hfound.1
  right := by
    have hfree' : ¬ c.Pending h := by
      rw [Pending, s.events_eq]
      exact hfree
    have hlt' : h < c.nextHandle := by
      rw [s.eq_with]
      exact hlt
    exact s.right.enter hfree' hlt' fun haction => (hinterval haction).imp fun _ hfound => hfound.2
  seen := by
    rw [s.eq_with]
    rfl
  interval e he haction := by
    rcases mem_queue_enter.mp he with hmem | rfl
    · exact s.interval e hmem haction
    · obtain ⟨interval, ha, hc⟩ := hinterval haction
      exact hc.trans ha.symm

/-- The clock, the next handle and the deadline may be set on both. -/
lemma frame (s : a.Alike c) (now : τ) {nextHandle : Nat} (deadline : Option τ)
    (hHandle : a.nextHandle ≤ nextHandle) :
    { a with now, nextHandle, deadline }.Alike { c with now, nextHandle, deadline } := by
  obtain ⟨intervals, rfl⟩ : ∃ intervals, c = { a with intervals } := ⟨_, s.eq_with⟩
  exact ⟨s.left.frame rfl rfl rfl rfl hHandle, s.right.frame rfl rfl rfl rfl hHandle, rfl,
    s.interval⟩

lemma setNow (s : a.Alike c) (now : τ) : { a with now }.Alike { c with now } := by
  obtain ⟨intervals, rfl⟩ : ∃ intervals, c = { a with intervals } := ⟨_, s.eq_with⟩
  exact s.frame now a.deadline le_rfl

lemma setDeadline (s : a.Alike c) (deadline : Option τ) :
    { a with deadline }.Alike { c with deadline } := by
  obtain ⟨intervals, rfl⟩ : ∃ intervals, c = { a with intervals } := ⟨_, s.eq_with⟩
  exact s.frame a.now deadline le_rfl

/-- An interval can be entered on both, if its handle is new. -/
lemma put_interval (s : a.Alike c) (interval : Interval τ κ) (hlt : h < a.nextHandle)
    (hfree : ¬ a.Pending h) :
    { a with intervals := put a.intervals h interval }.Alike
      { c with intervals := put c.intervals h interval } where
  left := s.left.put_interval interval hlt
  right := by
    refine s.right.put_interval interval ?_
    rw [s.eq_with]
    exact hlt
  seen := s.seen
  interval e he haction := by
    have hne : e.handle ≠ h := by
      rintro rfl
      exact hfree (s.left.pending_iff.mpr ⟨e, he, rfl⟩)
    rw [find?_put_of_ne hne, find?_put_of_ne hne]
    exact s.interval e he haction

end Agenda.Alike

/-! ## The two ways to cancel -/

/-- Operations that count as one are the same, or cancel the same key. -/
lemma Op.of_seen_eq {op op' : Op τ κ} (same : op'.seen = op.seen) :
    (op' = op ∧ ∀ key, ¬ op.Cancels key) ∨ ∃ key, op.Cancels key ∧ op'.Cancels key := by
  -- what counts as a cancellation is one
  have hcancels : ∀ (op : Op τ κ) key, op.seen = .cancelCall key → op.Cancels key := by
    intro op key hseen
    cases op with
    | cancelCall key' => exact Or.inl hseen
    | cancelEvery key' => exact Or.inr (congrArg Op.cancelEvery (Op.cancelCall.inj hseen))
    | _ => cases hseen
  cases op with
  | cancelCall key => exact Or.inr ⟨key, Or.inl rfl, hcancels op' key same⟩
  | cancelEvery key => exact Or.inr ⟨key, Or.inr rfl, hcancels op' key same⟩
  | _ =>
    refine Or.inl ⟨?_, fun key hkey => by rcases hkey with hkey | hkey <;> cases hkey⟩
    cases op' with
    | cancelEvery key => cases same
    | _ => exact same

lemma Op.seen_single {op : Op τ κ} : op.seen.Single ↔ op.Single := by
  cases op <;> rfl

section Cancel

variable {a c : Agenda τ κ} (n : Int)

lemma cancelCall_keyOfInt : a.cancelCall (keyOfInt n)
    = (.ok (), if 0 ≤ n then a.removeEvent n.toNat else a) := by
  unfold keyOfInt
  split <;> rfl

lemma cancelEvery_keyOfInt : a.cancelEvery (keyOfInt n)
    = (.ok (), if 0 ≤ n then
        { a with intervals := erase a.intervals n.toNat }.removeEvent n.toNat else a) := by
  unfold keyOfInt
  split <;> rfl

lemma Agenda.Alike.cancelCall (s : a.Alike c) :
    (a.cancelCall (keyOfInt n)).2.Alike (c.cancelCall (keyOfInt n)).2 := by
  rw [cancelCall_keyOfInt, cancelCall_keyOfInt]
  dsimp only
  split
  · exact s.removeEvent
  · exact s

/-- An interval that is left without its event makes no difference. -/
lemma Agenda.Consistent.cancelCall_alike (consistent : a.Consistent) :
    (a.cancelCall (keyOfInt n)).2.Alike (a.cancelEvery (keyOfInt n)).2 := by
  rw [cancelCall_keyOfInt, cancelEvery_keyOfInt]
  dsimp only
  split
  · refine ⟨consistent.removeEvent, consistent.erase_interval, ?_, fun e he _ => ?_⟩
    · unfold Agenda.removeEvent
      dsimp only
      split <;> rfl
    · rw [removeEvent_intervals, removeEvent_intervals]
      exact find?_erase_of_ne (consistent.toLinked.mem_queue_removeEvent.mp he).2
  · exact .refl consistent

end Cancel

/-! ## Histories that are alike -/

/-- Two histories in which the same is seen, and which leave agendas that are alike. -/
structure Logged.Alike (r r' : Logged τ κ ε (α × Agenda τ κ × μ)) : Prop where
  log : r'.log.map Mark.seen = r.log.map Mark.seen
  value : r'.result.1 = r.result.1
  agenda : r.result.2.1.Alike r'.result.2.1
  memory : r'.result.2.2 = r.result.2.2

namespace Logged.Alike

variable {r r' : Logged τ κ ε (α × Agenda τ κ × μ)} {marks marks' : List (Mark τ κ ε)}

lemma seen (h : r.Alike r') : r'.seen = r.seen := by
  rw [Logged.seen, Logged.seen, h.log, h.value, h.agenda.seen, h.memory]

lemma after (h : r.Alike r') (hmarks : marks'.map Mark.seen = marks.map Mark.seen) :
    (r.after marks).Alike (r'.after marks') where
  log := by rw [Logged.after, Logged.after, List.map_append, List.map_append, hmarks, h.log]
  value := h.value
  agenda := h.agenda
  memory := h.memory

/-- Where two histories are alike, so are the results that what comes next is given. -/
lemma result_eq (h : r.Alike r') :
    r'.result = (r.result.1, r'.result.2.1, r.result.2.2) :=
  Prod.ext h.value (Prod.ext rfl h.memory)

lemma followedBy {r r' : Logged τ κ ε (Option (Ending ε) × Agenda τ κ × μ)}
    {next next' : Agenda τ κ → μ → Logged τ κ ε (Ending ε × Agenda τ κ × μ)} (h : r.Alike r')
    (hnext : ∀ {a c : Agenda τ κ} (m : μ), a.Alike c → (next a m).Alike (next' c m)) :
    (r.followedBy next).Alike (r'.followedBy next') := by
  obtain ⟨log, stops, a, m⟩ := r
  obtain ⟨log', stops', c, m'⟩ := r'
  obtain ⟨hlog, rfl, hagenda, rfl⟩ := h
  cases stops' with
  | none => exact (hnext m' hagenda).after hlog
  | some ending => exact ⟨hlog, rfl, hagenda, rfl⟩

end Logged.Alike

lemma Mark.seen_eq {a b c d : Agenda τ κ} (s : a.Alike c) (s' : b.Alike d) {deed deed' : Deed τ κ ε}
    (hdeed : deed'.seen = deed.seen) :
    (⟨c, deed', d⟩ : Mark τ κ ε).seen = (⟨a, deed, b⟩ : Mark τ κ ε).seen := by
  rw [Mark.seen, Mark.seen, s.seen, s'.seen, hdeed]

section Runs

variable [Add τ] [Sub τ] [LT τ] [DecidableLT τ] [Zero τ] {a c : Agenda τ κ}

/-! ## Operations on agendas that are alike -/

omit [Sub τ] in
lemma Agenda.Alike.callLater (s : a.Alike c) (delay : Except DelayFault τ) (target : Target κ) :
    (a.callLater delay target).2.Alike (c.callLater delay target).2 ∧
      (c.callLater delay target).1 = (a.callLater delay target).1 := by
  have hfresh : ¬ a.Pending a.nextHandle := fun hp => (s.left.lt_of_pending hp).false
  unfold Agenda.callLater
  rw [s.accept_eq]
  obtain ⟨intervals, rfl⟩ : ∃ intervals, c = { a with intervals } := ⟨_, s.eq_with⟩
  have hnext := s.frame a.now a.deadline (Nat.le_succ a.nextHandle)
  rcases a.accept target with refusal | callback
  · exact ⟨s, rfl⟩
  · cases delay with
    | error fault => exact ⟨hnext, rfl⟩
    | ok delay => exact ⟨hnext.enter hfresh (Nat.lt_succ_self _) (by simp), rfl⟩

omit [Sub τ] in
lemma Agenda.Alike.callEvery (s : a.Alike c) (period : Except DelayFault τ) (target : Target κ) :
    (a.callEvery period target).2.Alike (c.callEvery period target).2 ∧
      (c.callEvery period target).1 = (a.callEvery period target).1 := by
  have hfresh : ¬ a.Pending a.nextHandle := fun hp => (s.left.lt_of_pending hp).false
  unfold Agenda.callEvery
  rw [s.accept_eq]
  obtain ⟨intervals, rfl⟩ : ∃ intervals, c = { a with intervals } := ⟨_, s.eq_with⟩
  have hnext := s.frame a.now a.deadline (Nat.le_succ a.nextHandle)
  rcases a.accept target with refusal | callback
  · exact ⟨s, rfl⟩
  · cases period with
    | error fault => exact ⟨hnext, rfl⟩
    | ok period =>
      have hput := hnext.put_interval ⟨clamp period, callback⟩ (Nat.lt_succ_self _) hfresh
      exact ⟨hput.enter hfresh (Nat.lt_succ_self _) fun _ =>
        ⟨_, find?_put_self, find?_put_self⟩, rfl⟩

/-- Closing leaves the same of both. -/
lemma Agenda.Alike.close (s : a.Alike c) : a.close.Alike c.close := by
  have hequal : c.close = a.close := by
    rw [s.eq_with]
    rfl
  have hclose : Happens a (.asked .close .nothing : Deed τ κ Unit) a.close :=
    .asked (by simp) rfl
  rw [hequal]
  exact .refl ((hclose.change s.left).consistent s.left)

omit [Sub τ] [LT τ] [DecidableLT τ] [Zero τ] in
/-- Starting an event runs the same callback on both. -/
lemma Agenda.Alike.start (s : a.Alike c) {event : Event τ κ} (hevent : event ∈ a.queue) :
    ∃ callback b d, a.start event = (some callback, b) ∧ c.start event = (some callback, d) ∧
      b.Alike d := by
  obtain ⟨honce, hagain⟩ := start_eq s.left.toLinked hevent
  obtain ⟨honce', hagain'⟩ := start_eq s.right.toLinked (s.queue_eq ▸ hevent)
  cases haction : event.action with
  | once callback =>
    exact ⟨callback, _, _, honce callback haction, honce' callback haction, s.removeEvent⟩
  | again =>
    obtain ⟨interval, hfound⟩ := s.left.interval_of_again event hevent haction
    have hfound' := (s.interval event hevent haction).trans hfound
    refine ⟨interval.callback, _, _, hagain interval haction hfound,
      hagain' interval haction hfound', s.removeEvent.enter ?_ ?_ fun _ => ⟨interval, ?_, ?_⟩⟩
    · rw [pending_removeEvent_iff]
      simp
    · rw [removeEvent_nextHandle]
      exact s.left.lt_of_pending (s.left.pending_iff.mpr ⟨event, hevent, rfl⟩)
    · rw [removeEvent_intervals, hfound]
    · rw [removeEvent_intervals, hfound']

variable (ε) in
omit [Sub τ] in
/-- Either way to cancel is answered alike, and leaves what cancelling the event leaves. -/
lemma Agenda.Consistent.cancels (consistent : a.Consistent) {op : Op τ κ} {n : Int}
    (hop : op.Cancels (keyOfInt n)) :
    (a.cancelCall (keyOfInt n)).2.Alike (op.leaves a) ∧ (op.answer a : Reply ε) = .nothing := by
  rcases hop with rfl | rfl
  · refine ⟨(Alike.refl consistent).cancelCall n, ?_⟩
    show Reply.ofCancel (a.cancelCall (keyOfInt n)).1 = .nothing
    rw [cancelCall_keyOfInt]
    rfl
  · refine ⟨consistent.cancelCall_alike n, ?_⟩
    show Reply.ofCancel (a.cancelEvery (keyOfInt n)).1 = .nothing
    rw [cancelEvery_keyOfInt]
    rfl

variable (ε) in
/-- Operations that count as one do the same to agendas that are alike. -/
lemma Agenda.Alike.leaves {op op' : Op τ κ} (s : a.Alike c) (same : op'.seen = op.seen)
    (byInteger : op.ByInteger) (single : op.Single) :
    (op.leaves a).Alike (op'.leaves c) ∧ (op'.answer c : Reply ε) = op.answer a := by
  rcases Op.of_seen_eq same with ⟨heq, hcancels⟩ | ⟨key, hkey, hkey'⟩
  · rw [heq]
    cases op with
    | callLater delay target =>
      obtain ⟨halike, hanswer⟩ := s.callLater delay target
      exact ⟨halike, congrArg Reply.ofRegistration hanswer⟩
    | callEvery period target =>
      obtain ⟨halike, hanswer⟩ := s.callEvery period target
      exact ⟨halike, congrArg Reply.ofRegistration hanswer⟩
    | cancelCall key => exact absurd (Or.inl rfl) (hcancels key)
    | cancelEvery key => exact absurd (Or.inr rfl) (hcancels key)
    | drain deadline => exact single.elim
    | close => exact ⟨s.close, rfl⟩
    | advance span =>
      have hnow : c.now = a.now := congrArg (·.now) s.seen
      refine ⟨?_, rfl⟩
      show { a with now := a.now + span }.Alike { c with now := c.now + span }
      rw [hnow]
      exact s.setNow _
  · obtain ⟨n, rfl⟩ := byInteger key hkey
    obtain ⟨hleaves, hanswer⟩ := s.left.cancels ε hkey
    obtain ⟨hleaves', hanswer'⟩ := s.right.cancels ε hkey'
    exact ⟨(hleaves.symm.trans (s.cancelCall n)).trans hleaves', hanswer'.trans hanswer.symm⟩

/-! ## Runs on agendas that are alike -/

section Drains

variable {drain drain' : Option τ → Agenda τ κ → μ → Logged τ κ ε (Ending ε × Agenda τ κ × μ)}
  (hdrain : ∀ deadline {a c : Agenda τ κ} (m : μ), a.Alike c →
    (drain deadline a m).Alike (drain' deadline c m))

include hdrain in
lemma performLogged_alike {op op' : Op τ κ} (s : a.Alike c) (same : op'.seen = op.seen)
    (byInteger : op.ByInteger) (m : μ) :
    (op.performLogged drain (a, m)).Alike (op'.performLogged drain' (c, m)) := by
  by_cases hdrains : ∃ deadline, op = .drain deadline
  · obtain ⟨deadline, rfl⟩ := hdrains
    obtain rfl : op' = .drain deadline := by
      rcases Op.of_seen_eq same with ⟨heq, -⟩ | ⟨key, hkey, -⟩
      · exact heq
      · rcases hkey with hkey | hkey <;> cases hkey
    have h := hdrain deadline m s
    rcases hran : drain deadline a m with ⟨log, ending, b, m'⟩
    rcases hran' : drain' deadline c m with ⟨log', ending', d, m''⟩
    rw [hran, hran'] at h
    obtain ⟨hlog, rfl, hagenda, rfl⟩ := h
    have hbegan : Mark.seen ⟨c, .began deadline, { c with deadline }⟩
        = (Mark.seen ⟨a, .began deadline, { a with deadline }⟩ : Mark τ κ ε) :=
      Mark.seen_eq s (s.setDeadline deadline) rfl
    simp only [Op.performLogged, Op.perform, hran, hran']
    cases ending' <;> exact ⟨congrArg₂ List.cons hbegan hlog, rfl, hagenda, rfl⟩
  · have hsingle : op.Single := by
      cases op with
      | drain deadline => exact hdrains ⟨deadline, rfl⟩
      | _ => trivial
    have hsingle' : op'.Single := by rwa [← Op.seen_single, same, Op.seen_single]
    obtain ⟨hleaves, hanswer⟩ := s.leaves ε same byInteger hsingle
    rw [performLogged_of_single hsingle, performLogged_of_single hsingle']
    have hmark : Mark.seen ⟨c, .asked op' (op'.answer c), op'.leaves c⟩
        = (Mark.seen ⟨a, .asked op (op.answer a), op.leaves a⟩ : Mark τ κ ε) :=
      Mark.seen_eq s hleaves (by rw [Deed.seen, Deed.seen, same, hanswer])
    exact ⟨congrArg (fun mark => [mark]) hmark, hanswer, hleaves, rfl⟩

include hdrain in
/-- Scripts that differ in the way they cancel have histories that are alike. -/
lemma runLogged_alike {script script' : Script (Op τ κ) (Reply ε) α}
    (exchanged : Exchanged script script') : ∀ {a c : Agenda τ κ} (m : μ), a.Alike c →
    (runLogged (Op.performLogged drain) script (a, m)).Alike
      (runLogged (Op.performLogged drain') script' (c, m)) := by
  induction exchanged with
  | stop result => exact fun m s => ⟨rfl, rfl, s, rfl⟩
  | @act op op' next next' same byInteger rest ih =>
    intro a c m s
    have hfirst := performLogged_alike hdrain s same byInteger m
    have hrest := ih (op.performLogged drain (a, m)).result.1
      (op.performLogged drain (a, m)).result.2.2 hfirst.agenda
    rw [runLogged, runLogged, hfirst.result_eq]
    exact hrest.after hfirst.log

end Drains

/-! ## The loop and the sessions -/

section Loop

variable {invoke invoke' : κ → Agenda τ κ → μ → Logged τ κ ε (Ending ε × Agenda τ κ × μ)}
  (hinvoke : ∀ callback {a c : Agenda τ κ} (m : μ), a.Alike c →
    (invoke callback a m).Alike (invoke' callback c m))

include hinvoke in
lemma turnLogged_alike (s : a.Alike c) (m : μ) :
    (turnLogged invoke a m).Alike (turnLogged invoke' c m) := by
  cases hturn : a.turn with
  | idle =>
    rw [turnLogged_idle hturn, turnLogged_idle (s.turn_eq.trans hturn)]
    exact ⟨rfl, rfl, s, rfl⟩
  | late =>
    rw [turnLogged_late hturn, turnLogged_late (s.turn_eq.trans hturn)]
    exact ⟨rfl, rfl, s, rfl⟩
  | wait moment =>
    have hwaited : Mark.seen ⟨c, .waited, { c with now := moment }⟩
        = (Mark.seen ⟨a, .waited, { a with now := moment }⟩ : Mark τ κ ε) :=
      Mark.seen_eq s (s.setNow moment) rfl
    rw [turnLogged_wait hturn, turnLogged_wait (s.turn_eq.trans hturn)]
    exact ⟨congrArg (fun mark => [mark]) hwaited, rfl, s.setNow moment, rfl⟩
  | fire event =>
    obtain ⟨callback, b, d, hstart, hstart', s'⟩ :=
      s.start (mem_of_earliest? (turn_eq_fire hturn).1)
    have hstarted : Mark.seen ⟨c, .started event callback, d⟩
        = (Mark.seen ⟨a, .started event callback, b⟩ : Mark τ κ ε) := Mark.seen_eq s s' rfl
    have hran := hinvoke callback m s'
    rw [turnLogged_start hturn hstart, turnLogged_start (s.turn_eq.trans hturn) hstart']
    refine ⟨congrArg₂ List.cons hstarted hran.log, ?_, hran.agenda, hran.memory⟩
    dsimp only
    rw [hran.value]
    cases (invoke callback b m).result.1 <;> simp only [Ending.stops, hran.agenda.isLate_eq]

include hinvoke in
lemma drainTurnsLogged_alike (turns : Nat) : ∀ {a c : Agenda τ κ} (m : μ), a.Alike c →
    (drainTurnsLogged invoke turns a m).Alike (drainTurnsLogged invoke' turns c m) := by
  induction turns with
  | zero => exact fun m s => ⟨rfl, rfl, s, rfl⟩
  | succ turns ih =>
    intro a c m s
    rw [drainTurnsLogged_succ, drainTurnsLogged_succ]
    exact (turnLogged_alike hinvoke s m).followedBy ih

end Loop

variable {b b' : Behaviour τ κ ε μ}

lemma drainLogged_alike {turns : Nat}
    {invoke invoke' : κ → Agenda τ κ → μ → Logged τ κ ε (Ending ε × Agenda τ κ × μ)}
    (hinvoke : ∀ callback {a c : Agenda τ κ} (m : μ), a.Alike c →
      (invoke callback a m).Alike (invoke' callback c m)) :
    ∀ deadline {a c : Agenda τ κ} (m : μ), a.Alike c →
      (drainLogged invoke turns deadline a m).Alike (drainLogged invoke' turns deadline c m) :=
  fun deadline _ _ m s => drainTurnsLogged_alike hinvoke turns m (s.setDeadline deadline)

/-- Callbacks that differ in the way they cancel have runs that are alike. -/
lemma invokeLogged_alike (exchanged : b.Exchanged b') (turns : Nat) :
    ∀ callback {a c : Agenda τ κ} (m : μ), a.Alike c →
      (b.invokeLogged turns callback a m).Alike (b'.invokeLogged turns callback c m) := by
  induction turns with
  | zero => exact fun callback a c m s => ⟨rfl, rfl, s, rfl⟩
  | succ turns ih =>
    intro callback a c m s
    rw [Behaviour.invokeLogged, Behaviour.invokeLogged, exchanged.note callback a c m s.seen]
    exact runLogged_alike (drainLogged_alike ih) (exchanged.script callback a c _ s.seen) _ s

/-- Sessions that differ in the way they cancel, from agendas that are alike, are alike. -/
theorem session_alike (s : a.Alike c) (exchanged : b.Exchanged b')
    {caller caller' : Script (Op τ κ) (Reply ε) α} (exchanged' : Exchanged caller caller')
    (turns : Nat) (m : μ) :
    (b.session turns caller a m).Alike (b'.session turns caller' c m) :=
  runLogged_alike (drainLogged_alike (invokeLogged_alike exchanged turns)) exchanged' m s

/-! ## What cannot be told apart -/

/-- Whether nobody can tell two agendas apart: no caller and no callbacks, in whichever way they
cancel from there on. -/
def Agenda.Indistinguishable (a c : Agenda τ κ) : Prop :=
  ∀ (ε μ α : Type) (b b' : Behaviour τ κ ε μ) (turns : Nat)
    (caller caller' : Script (Op τ κ) (Reply ε) α) (m : μ),
    b.Exchanged b' → Exchanged caller caller' →
      (b'.session turns caller' c m).seen = (b.session turns caller a m).seen

lemma Agenda.Alike.indistinguishable (s : a.Alike c) : a.Indistinguishable c :=
  fun _ _ _ _ _ turns _ _ m exchanged exchanged' =>
    (session_alike s exchanged exchanged' turns m).seen

/-- It makes no difference in which of the two ways a timer is cancelled.

At every point of every history that begins with an empty agenda, and for every integer: both ways
are answered with nothing, and no later session can tell which one it was, by what it is answered, by
what is started at which moment, by what is waiting, or by how it ends. From every such point, any
cancellations by the caller or by the callbacks may be exchanged, and the same is seen. -/
theorem cancellations_interchangeable (b : Behaviour τ κ ε μ) (turns : Nat)
    (caller : Script (Op τ κ) (Reply ε) α) (now : τ) (m : μ) :
    ∀ a ∈ (b.session turns caller (.empty now) m).points (.empty now),
      (∀ n : Int, (a.cancelCall (keyOfInt n)).1 = .ok () ∧ (a.cancelEvery (keyOfInt n)).1 = .ok () ∧
        (a.cancelCall (keyOfInt n)).2.Indistinguishable (a.cancelEvery (keyOfInt n)).2) ∧
      a.Indistinguishable a := by
  intro a ha
  have consistent := (session_consistent b turns caller now m).1 a ha
  refine ⟨fun n => ⟨?_, ?_, ?_⟩, (Alike.refl consistent).indistinguishable⟩
  · rw [cancelCall_keyOfInt]
  · rw [cancelEvery_keyOfInt]
  · exact (consistent.cancelCall_alike n).indistinguishable

end Runs

/-- Callbacks that note the moment and cancel the first timer, in a given way. -/
def Behaviour.stopping (cancel : Op Int Unit) : Behaviour Int Unit Unit (List Int) where
  note _ a moments := a.now :: moments
  script _ _ _ := .act cancel fun _ => .stop .done

/-- A timer that is to run every three seconds and cancels itself as it runs first. Its interval
stays if it does so as a timer that runs once. -/
theorem cancellations_interchangeable_within_callback :
    let ticking : Script (Op Int Unit) (Reply Unit) Unit :=
      .act (.callEvery (.ok 3) (.callable ())) fun _ => .act (.drain none) fun _ => .stop ()
    let run := (Behaviour.stopping (.cancelCall (.handle 1))).session 9 ticking (.empty 0) []
    let run' := (Behaviour.stopping (.cancelEvery (.handle 1))).session 9 ticking (.empty 0) []
    run'.seen = run.seen ∧ run.result.2.2 = [3] ∧
      run.result.2.1.intervals.length = 1 ∧ run'.result.2.1.intervals.length = 0 := by
  intro ticking run run'
  have hempty : (.empty 0 : Agenda Int Unit) ∈ run.points (.empty 0) := List.mem_cons_self
  have hbehaviours : (Behaviour.stopping (.cancelCall (.handle 1))).Exchanged
      (Behaviour.stopping (.cancelEvery (.handle 1))) := by
    refine ⟨fun _ a c moments hseen => ?_, fun _ a c _ _ => ?_⟩
    · have hnow : c.now = a.now := congrArg (·.now) hseen
      exact congrArg (· :: moments) hnow
    · refine .act rfl ?_ fun _ => .stop _
      rintro key (hkey | hkey)
      · exact ⟨1, (Op.cancelCall.inj hkey).symm⟩
      · cases hkey
  have hcaller : Exchanged ticking ticking := by
    refine .act rfl ?_ fun _ => .act rfl ?_ fun _ => .stop _ <;>
      (rintro key (hkey | hkey) <;> cases hkey)
  exact ⟨(cancellations_interchangeable _ 9 ticking 0 [] (.empty 0) hempty).2 _ _ _ _ _ 9 _ _ []
    hbehaviours hcaller, by decide, by decide, by decide⟩

end SnippetRunner.Timer
