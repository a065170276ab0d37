import SnippetRunner.Proofs.Timer.Change

/-!
# Callbacks that do not drain

A callback that does not drain is a script of single operations: what it does to the agenda is
said by their answers alone, without the loop that started it.

* `Script.Within` bounds what a script asks for and how it ends, over all answers that it may get.
* `Behaviour.called` is the run of one callback, with its history; `drained_eq` says that a drain
  whose callbacks do not drain is the loop over it, whatever the bound on nested turns.
* `turnLogged` is one turn of that loop, and `drainTurnsLogged_succ` says that a run is a turn
  followed by a run. `drainTurnsLogged_fire` and its neighbours open a turn by its kind; what follows
  a callback is `afterCallback`.
* The deadline is for the loop alone: no single operation looks at it (`perform_withDeadline`).
-/

namespace SnippetRunner

/-- Whether a script asks only for some operations and ends only with some results. -/
def Script.Within {Op Reply α : Type} (asks : Op → Prop) (ends : α → Prop) :
    Script Op Reply α → Prop
  | .stop result => ends result
  | .act op next => asks op ∧ ∀ reply, (next reply).Within asks ends

lemma Script.Within.mono {Op Reply α : Type} {asks asks' : Op → Prop} {ends ends' : α → Prop}
    (hasks : ∀ op, asks op → asks' op) (hends : ∀ result, ends result → ends' result) :
    ∀ {script : Script Op Reply α}, script.Within asks ends → script.Within asks' ends'
  | .stop _, within => hends _ within
  | .act _ _, within => ⟨hasks _ within.1, fun reply => (within.2 reply).mono hasks hends⟩

lemma Script.Within.bind {Op Reply α β : Type} {asks : Op → Prop} {ends : α → Prop}
    {ends' : β → Prop} {f : α → Script Op Reply β}
    (hf : ∀ result, ends result → (f result).Within asks ends') :
    ∀ {script : Script Op Reply α}, script.Within asks ends → (script.bind f).Within asks ends'
  | .stop _, within => hf _ within
  | .act _ _, within => ⟨within.1, fun reply => (within.2 reply).bind hf⟩

namespace Timer

open Agenda

variable {τ κ ε μ α : Type}

/-- Whether an operation is none that runs callbacks. -/
def Op.Single : Op τ κ → Prop
  | .drain _ => False
  | _ => True

/-- Whether an operation registers or cancels a timer. -/
def Op.Arranges : Op τ κ → Prop
  | .callLater _ _ | .callEvery _ _ | .cancelCall _ | .cancelEvery _ => True
  | _ => False

lemma Op.Arranges.single {op : Op τ κ} (arranges : op.Arranges) : op.Single := by
  cases op with
  | drain deadline => exact arranges.elim
  | _ => trivial

/-- Whether all callbacks ask only for some operations and end only in some ways. -/
def Behaviour.Within (b : Behaviour τ κ ε μ) (asks : Op τ κ → Prop) (ends : Ending ε → Prop) :
    Prop :=
  ∀ callback a m, (b.script callback a m).Within asks ends

lemma Behaviour.Within.mono {b : Behaviour τ κ ε μ} {asks asks' : Op τ κ → Prop}
    {ends ends' : Ending ε → Prop} (within : b.Within asks ends)
    (hasks : ∀ op, asks op → asks' op) (hends : ∀ ending, ends ending → ends' ending) :
    b.Within asks' ends' :=
  fun callback a m => (within callback a m).mono hasks hends

section Definitions

variable [Add τ] [Sub τ] [LT τ] [DecidableLT τ] [Zero τ]

/-- A drain by a caller, with its whole history. -/
def Behaviour.drained (b : Behaviour τ κ ε μ) (turns : Nat) (deadline : Option τ) (a : Agenda τ κ)
    (m : μ) : Logged τ κ ε (Ending ε × Agenda τ κ × μ) :=
  drainLogged (b.invokeLogged turns) turns deadline a m

/-- The answer to a single operation. -/
def Op.answer (op : Op τ κ) (a : Agenda τ κ) : Reply ε :=
  (op.perform (fun _ a m => (.done, a, m)) (a, ())).1

/-- The agenda that a single operation leaves. -/
def Op.leaves (op : Op τ κ) (a : Agenda τ κ) : Agenda τ κ :=
  (op.perform (fun _ a m => ((.done : Ending Unit), a, m)) (a, ())).2.1

/-- Runs a script of single operations and keeps what happens. -/
def runSingle : Script (Op τ κ) (Reply ε) α → Agenda τ κ → Logged τ κ ε (α × Agenda τ κ)
  | .stop result, a => ⟨[], result, a⟩
  | .act op next, a =>
    (runSingle (next (op.answer a)) (op.leaves a)).after
      [⟨a, .asked op (op.answer a), op.leaves a⟩]

/-- Runs a callback that does not drain, and keeps what happens. -/
def Behaviour.called (b : Behaviour τ κ ε μ) (callback : κ) (a : Agenda τ κ) (m : μ) :
    Logged τ κ ε (Ending ε × Agenda τ κ × μ) :=
  let m := b.note callback a m
  let ran := runSingle (b.script callback a m) a
  ⟨ran.log, ran.result.1, ran.result.2, m⟩

end Definitions

section Runs

variable [Add τ] [Sub τ] [LT τ] [DecidableLT τ] [Zero τ]

/-! ## Drains whose callbacks do not drain -/

/-- A drain with its history is the drain. -/
theorem drained_result (b : Behaviour τ κ ε μ) (turns : Nat) (deadline : Option τ)
    (a : Agenda τ κ) (m : μ) :
    (b.drained turns deadline a m).result = drain (b.invoke turns) turns deadline a m := by
  rw [Behaviour.drained, drainLogged, drainTurnsLogged_result, drain]
  simp only [invokeLogged_result]

omit [Sub τ] in
lemma performLogged_of_single {op : Op τ κ} (single : op.Single)
    (drain : Option τ → Agenda τ κ → μ → Logged τ κ ε (Ending ε × Agenda τ κ × μ))
    (a : Agenda τ κ) (m : μ) :
    op.performLogged drain (a, m) = ⟨[⟨a, .asked op (op.answer a), op.leaves a⟩],
      op.answer a, op.leaves a, m⟩ := by
  cases op with
  | drain deadline => exact single.elim
  | _ => rfl

omit [Sub τ] in
/-- A script of single operations leaves the memory alone and does not need the loop. -/
lemma runLogged_of_single {ends : α → Prop}
    (drain : Option τ → Agenda τ κ → μ → Logged τ κ ε (Ending ε × Agenda τ κ × μ))
    (script : Script (Op τ κ) (Reply ε) α) : ∀ (a : Agenda τ κ) (m : μ),
    script.Within Op.Single ends → runLogged (Op.performLogged drain) script (a, m)
      = ⟨(runSingle script a).log, (runSingle script a).result.1, (runSingle script a).result.2,
        m⟩ := by
  induction script with
  | stop result => exact fun a m _ => rfl
  | act op next ih =>
    intro a m within
    rw [runLogged, performLogged_of_single within.1]
    simp only
    rw [ih _ _ m (within.2 _)]
    rfl

lemma invokeLogged_eq_called {b : Behaviour τ κ ε μ} {ends : Ending ε → Prop}
    (within : b.Within Op.Single ends) (turns : Nat) :
    b.invokeLogged (turns + 1) = b.called := by
  funext callback a m
  rw [Behaviour.invokeLogged, Behaviour.called]
  exact runLogged_of_single _ _ a _ (within callback a _)

/-- A drain whose callbacks do not drain is the loop over their runs. -/
theorem drained_eq {b : Behaviour τ κ ε μ} {ends : Ending ε → Prop}
    (within : b.Within Op.Single ends) (turns : Nat) (deadline : Option τ) (a : Agenda τ κ) (m : μ) :
    b.drained turns deadline a m = drainTurnsLogged b.called turns { a with deadline } m := by
  rw [Behaviour.drained, drainLogged]
  cases turns with
  | zero => rfl
  | succ turns => rw [invokeLogged_eq_called within]

lemma called_leads {b : Behaviour τ κ ε μ} {ends : Ending ε → Prop}
    (within : b.Within Op.Single ends) (callback : κ) (a : Agenda τ κ) (m : μ) :
    Leads a (b.called callback a m).log (b.called callback a m).result.2.1 := by
  rw [← invokeLogged_eq_called within 0]
  exact invokeLogged_leads b 1 callback a m

/-! ## One turn of the loop -/

/-- Whether the loop stops after something that ended in some way, and with which result. -/
def Ending.stops (a : Agenda τ κ) : Ending ε → Option (Ending ε)
  | .done => if a.isLate then some .late else none
  | ending => some ending

/-- One turn of the loop: what happens, whether the loop stops there, and what is left. -/
def turnLogged (invoke : κ → Agenda τ κ → μ → Logged τ κ ε (Ending ε × Agenda τ κ × μ))
    (a : Agenda τ κ) (m : μ) : Logged τ κ ε (Option (Ending ε) × Agenda τ κ × μ) :=
  match a.turn with
  | .idle => ⟨[], some .done, a, m⟩
  | .late => ⟨[], some .late, a, m⟩
  | .wait moment => ⟨[⟨a, .waited, { a with now := moment }⟩], none, { a with now := moment }, m⟩
  | .fire event =>
    match a.start event with
    | (none, s) => ⟨[⟨a, .dropped event, s⟩], Ending.done.stops s, s, m⟩
    | (some callback, s) =>
      let ran := invoke callback s m
      ⟨⟨a, .started event callback, s⟩ :: ran.log, ran.result.1.stops ran.result.2.1, ran.result.2⟩

/-- A turn, followed by what comes after it unless the loop stops. -/
def Logged.followedBy (r : Logged τ κ ε (Option (Ending ε) × Agenda τ κ × μ))
    (next : Agenda τ κ → μ → Logged τ κ ε (Ending ε × Agenda τ κ × μ)) :
    Logged τ κ ε (Ending ε × Agenda τ κ × μ) :=
  match r.result with
  | (some ending, s) => ⟨r.log, ending, s⟩
  | (none, a, m) => (next a m).after r.log

/-- How the loop goes on after a callback: it stops at the deadline or with what the callback
raised, and takes the next turn otherwise. -/
def afterCallback (invoke : κ → Agenda τ κ → μ → Logged τ κ ε (Ending ε × Agenda τ κ × μ))
    (turns : Nat) (ran : Ending ε × Agenda τ κ × μ) : Logged τ κ ε (Ending ε × Agenda τ κ × μ) :=
  Logged.followedBy ⟨[], ran.1.stops ran.2.1, ran.2⟩ (drainTurnsLogged invoke turns)

section Turns

variable {invoke : κ → Agenda τ κ → μ → Logged τ κ ε (Ending ε × Agenda τ κ × μ)} {turns : Nat}
  {a b : Agenda τ κ} {m : μ}

lemma turnLogged_idle (hturn : a.turn = .idle) :
    turnLogged invoke a m = ⟨[], some .done, a, m⟩ := by
  rw [turnLogged, hturn]

lemma turnLogged_late (hturn : a.turn = .late) :
    turnLogged invoke a m = ⟨[], some .late, a, m⟩ := by
  rw [turnLogged, hturn]

lemma turnLogged_wait {moment : τ} (hturn : a.turn = .wait moment) :
    turnLogged invoke a m
      = ⟨[⟨a, .waited, { a with now := moment }⟩], none, { a with now := moment }, m⟩ := by
  rw [turnLogged, hturn]

lemma turnLogged_drop {event : Event τ κ} (hturn : a.turn = .fire event)
    (hstart : a.start event = (none, b)) :
    turnLogged invoke a m = ⟨[⟨a, .dropped event, b⟩], Ending.done.stops b, b, m⟩ := by
  rw [turnLogged, hturn]
  simp only [hstart]

lemma turnLogged_start {event : Event τ κ} {callback : κ} (hturn : a.turn = .fire event)
    (hstart : a.start event = (some callback, b)) :
    turnLogged invoke a m = ⟨⟨a, .started event callback, b⟩ :: (invoke callback b m).log,
      (invoke callback b m).result.1.stops (invoke callback b m).result.2.1,
      (invoke callback b m).result.2⟩ := by
  rw [turnLogged, hturn]
  simp only [hstart]

/-- A run is a turn, followed by a run. -/
lemma drainTurnsLogged_succ (turns : Nat) (a : Agenda τ κ) (m : μ) :
    drainTurnsLogged invoke (turns + 1) a m
      = (turnLogged invoke a m).followedBy (drainTurnsLogged invoke turns) := by
  rw [drainTurnsLogged, turnLogged]
  cases hturn : a.turn with
  | idle => rfl
  | late => rfl
  | wait moment => rfl
  | fire event =>
    rcases hstart : a.start event with ⟨_ | callback, s⟩
    · simp only [hstart, Ending.stops]
      cases s.isLate <;> rfl
    · simp only [hstart]
      rcases hran : (invoke callback s m).result with ⟨_ | _ | error | _, c, m'⟩ <;>
        simp only [Ending.stops, Logged.followedBy]
      cases c.isLate <;> rfl

lemma drainTurnsLogged_idle (hturn : a.turn = .idle) :
    drainTurnsLogged invoke (turns + 1) a m = ⟨[], .done, a, m⟩ := by
  rw [drainTurnsLogged_succ, turnLogged_idle hturn]
  rfl

lemma drainTurnsLogged_late (hturn : a.turn = .late) :
    drainTurnsLogged invoke (turns + 1) a m = ⟨[], .late, a, m⟩ := by
  rw [drainTurnsLogged_succ, turnLogged_late hturn]
  rfl

lemma drainTurnsLogged_wait {moment : τ} (hturn : a.turn = .wait moment) :
    drainTurnsLogged invoke (turns + 1) a m
      = (drainTurnsLogged invoke turns { a with now := moment } m).after
          [⟨a, .waited, { a with now := moment }⟩] := by
  rw [drainTurnsLogged_succ, turnLogged_wait hturn]
  rfl

lemma afterCallback_done : afterCallback invoke turns (.done, a, m)
    = if a.isLate then ⟨[], .late, a, m⟩ else drainTurnsLogged invoke turns a m := by
  rw [afterCallback, Ending.stops]
  cases a.isLate <;> rfl

lemma afterCallback_raised {ran : Ending ε × Agenda τ κ × μ} (hraised : ran.1 ≠ .done) :
    afterCallback invoke turns ran = ⟨[], ran⟩ := by
  obtain ⟨ending, c, m⟩ := ran
  cases ending with
  | done => exact absurd rfl hraised
  | _ => rfl

lemma drainTurnsLogged_fire {event : Event τ κ} {callback : κ} (hturn : a.turn = .fire event)
    (hstart : a.start event = (some callback, b)) :
    drainTurnsLogged invoke (turns + 1) a m
      = (afterCallback invoke turns (invoke callback b m).result).after
          (⟨a, .started event callback, b⟩ :: (invoke callback b m).log) := by
  rw [drainTurnsLogged_succ, turnLogged_start hturn hstart, afterCallback]
  generalize (invoke callback b m).result.1.stops (invoke callback b m).result.2.1 = stops
  cases stops with
  | none => rfl
  | some ending => simp only [Logged.followedBy, Logged.after, List.append_nil]

/-- A run that ended does the same with more turns. -/
lemma drainTurnsLogged_add (turns more : Nat) : ∀ (a : Agenda τ κ) (m : μ),
    (drainTurnsLogged invoke turns a m).result.1 ≠ .endless →
      drainTurnsLogged invoke (turns + more) a m = drainTurnsLogged invoke turns a m := by
  induction turns with
  | zero => exact fun a m hends => absurd rfl hends
  | succ turns ih =>
    intro a m hends
    rw [drainTurnsLogged_succ] at hends
    rw [Nat.add_right_comm, drainTurnsLogged_succ, drainTurnsLogged_succ]
    rcases hturn : (turnLogged invoke a m).result with ⟨_ | ending, c, m'⟩
    · simp only [Logged.followedBy, hturn] at hends ⊢
      rw [ih c m' hends]
    · simp only [Logged.followedBy, hturn]

end Turns

/-! ## What a callback does at most -/

omit [Sub τ] in
lemma runSingle_asked (script : Script (Op τ κ) (Reply ε) α) : ∀ a : Agenda τ κ,
    ∀ mark ∈ (runSingle script a).log, ∃ op reply, mark.deed = .asked op reply := by
  induction script with
  | stop result => simp [runSingle]
  | act op next ih =>
    intro a mark hmark
    rcases List.mem_cons.mp hmark with rfl | hrest
    · exact ⟨op, _, rfl⟩
    · exact ih _ _ mark hrest

omit [Sub τ] in
lemma runSingle_ends {asks : Op τ κ → Prop} {ends : α → Prop}
    (script : Script (Op τ κ) (Reply ε) α) : ∀ a : Agenda τ κ,
    script.Within asks ends → ends (runSingle script a).result.1 := by
  induction script with
  | stop result => exact fun a within => within
  | act op next ih => exact fun a within => ih _ _ (within.2 _)

omit [Sub τ] in
/-- A callback ends as its script allows. -/
lemma called_ends {b : Behaviour τ κ ε μ} {asks : Op τ κ → Prop} {ends : Ending ε → Prop}
    (within : b.Within asks ends) (callback : κ) (a : Agenda τ κ) (m : μ) :
    ends (b.called callback a m).result.1 :=
  runSingle_ends _ a (within callback a _)

omit [Sub τ] in
/-- A callback that does not drain starts nothing and waits for nothing. -/
lemma called_asked (b : Behaviour τ κ ε μ) (callback : κ) (a : Agenda τ κ) (m : μ) :
    ∀ mark ∈ (b.called callback a m).log, ∃ op reply, mark.deed = .asked op reply :=
  runSingle_asked _ a

end Runs

/-! ## The deadline -/

/-- An agenda with another deadline. -/
def Agenda.withDeadline (a : Agenda τ κ) (deadline : Option τ) : Agenda τ κ := { a with deadline }

/-- A mark with another deadline before and after it. -/
def Mark.withDeadline (deadline : Option τ) (mark : Mark τ κ ε) : Mark τ κ ε :=
  ⟨mark.before.withDeadline deadline, mark.deed, mark.after.withDeadline deadline⟩

/-- A result with its history, with another deadline all along. -/
def Logged.withDeadline (deadline : Option τ) (r : Logged τ κ ε (α × Agenda τ κ × μ)) :
    Logged τ κ ε (α × Agenda τ κ × μ) :=
  ⟨r.log.map (Mark.withDeadline deadline), r.result.1, r.result.2.1.withDeadline deadline,
    r.result.2.2⟩

/-- Whether the callbacks do not look at the deadline. -/
def Behaviour.Blind (b : Behaviour τ κ ε μ) : Prop :=
  ∀ callback a m deadline, b.note callback (a.withDeadline deadline) m = b.note callback a m ∧
    b.script callback (a.withDeadline deadline) m = b.script callback a m

section Deadline

variable {a : Agenda τ κ} {deadline : Option τ}

lemma removeEvent_withDeadline (h : Nat) :
    (a.withDeadline deadline).removeEvent h = (a.removeEvent h).withDeadline deadline := by
  unfold removeEvent
  rw [show (a.withDeadline deadline).events = a.events from rfl]
  split <;> rfl

lemma foldl_removeEvent_withDeadline (handles : List Nat) : ∀ a : Agenda τ κ,
    handles.foldl removeEvent (a.withDeadline deadline)
      = (handles.foldl removeEvent a).withDeadline deadline := by
  induction handles with
  | nil => exact fun a => rfl
  | cons h rest ih =>
    intro a
    rw [List.foldl_cons, List.foldl_cons, removeEvent_withDeadline, ih]

lemma cancelCall_withDeadline (key : Key) : (a.withDeadline deadline).cancelCall key
    = ((a.cancelCall key).1, (a.cancelCall key).2.withDeadline deadline) := by
  unfold cancelCall
  rw [show (a.withDeadline deadline).events = a.events from rfl]
  rcases checkKey a.events key with bad | _ | handle
  · rfl
  · rfl
  · simp only [removeEvent_withDeadline]

lemma cancelEvery_withDeadline (key : Key) : (a.withDeadline deadline).cancelEvery key
    = ((a.cancelEvery key).1, (a.cancelEvery key).2.withDeadline deadline) := by
  unfold cancelEvery
  rw [show (a.withDeadline deadline).intervals = a.intervals from rfl]
  rcases checkKey a.intervals key with bad | _ | handle
  · rfl
  · exact cancelCall_withDeadline key
  · exact cancelCall_withDeadline (a := { a with intervals := erase a.intervals handle }) key

lemma cancelCall_now (key : Key) : (a.cancelCall key).2.now = a.now := by
  unfold cancelCall
  rcases checkKey a.events key with bad | _ | handle
  · rfl
  · rfl
  · exact removeEvent_now

variable [Add τ] [LT τ] [DecidableLT τ] [Zero τ]

omit [LT τ] [DecidableLT τ] [Zero τ] in
lemma start_withDeadline (a : Agenda τ κ) (deadline : Option τ) (event : Event τ κ) :
    (a.withDeadline deadline).start event
      = ((a.start event).1, (a.start event).2.withDeadline deadline) := by
  unfold start
  cases event.action with
  | once callback => rfl
  | again =>
    simp only [show (a.withDeadline deadline).intervals = a.intervals from rfl]
    cases find? a.intervals event.handle <;> rfl

omit [LT τ] [DecidableLT τ] [Zero τ] in
/-- Starting an event takes no time and leaves the deadline. -/
lemma start_frame (a : Agenda τ κ) (event : Event τ κ) :
    (a.start event).2.now = a.now ∧ (a.start event).2.deadline = a.deadline := by
  unfold start
  cases event.action with
  | once callback => exact ⟨rfl, rfl⟩
  | again => dsimp only; split <;> exact ⟨rfl, rfl⟩

lemma callLater_withDeadline (delay : Except DelayFault τ) (target : Target κ) :
    (a.withDeadline deadline).callLater delay target
      = ((a.callLater delay target).1, (a.callLater delay target).2.withDeadline deadline) := by
  unfold callLater
  rw [show (a.withDeadline deadline).accept target = a.accept target by cases target <;> rfl]
  rcases a.accept target with refusal | callback
  · rfl
  · cases delay <;> rfl

lemma callEvery_withDeadline (period : Except DelayFault τ) (target : Target κ) :
    (a.withDeadline deadline).callEvery period target
      = ((a.callEvery period target).1, (a.callEvery period target).2.withDeadline deadline) := by
  unfold callEvery
  rw [show (a.withDeadline deadline).accept target = a.accept target by cases target <;> rfl]
  rcases a.accept target with refusal | callback
  · rfl
  · cases period <;> rfl

/-- No single operation looks at the deadline. -/
lemma perform_withDeadline {op : Op τ κ} (single : op.Single) (a : Agenda τ κ)
    (deadline : Option τ) :
    op.leaves (a.withDeadline deadline) = (op.leaves a).withDeadline deadline ∧
      (op.answer (a.withDeadline deadline) : Reply ε) = op.answer a := by
  cases op with
  | drain deadline => exact single.elim
  | callLater delay target =>
    simp only [Op.leaves, Op.answer, Op.perform, callLater_withDeadline, and_self]
  | callEvery period target =>
    simp only [Op.leaves, Op.answer, Op.perform, callEvery_withDeadline, and_self]
  | cancelCall key =>
    simp only [Op.leaves, Op.answer, Op.perform, cancelCall_withDeadline, and_self]
  | cancelEvery key =>
    simp only [Op.leaves, Op.answer, Op.perform, cancelEvery_withDeadline, and_self]
  | close =>
    exact ⟨foldl_removeEvent_withDeadline _ { a with closed := true, intervals := [] }, rfl⟩
  | advance span => exact ⟨rfl, rfl⟩

lemma leaves_deadline {op : Op τ κ} (single : op.Single) :
    (op.leaves a).deadline = a.deadline := by
  have hsame : op.leaves a = (op.leaves a).withDeadline a.deadline :=
    (perform_withDeadline (ε := Unit) single a a.deadline).1
  exact (congrArg Agenda.deadline hsame).trans rfl

/-- Registering and cancelling do not take time. -/
lemma leaves_now {op : Op τ κ} (arranges : op.Arranges) : (op.leaves a).now = a.now := by
  cases op with
  | callLater delay target =>
    show (a.callLater delay target).2.now = a.now
    unfold callLater
    rcases a.accept target with refusal | callback
    · rfl
    · cases delay <;> rfl
  | callEvery period target =>
    show (a.callEvery period target).2.now = a.now
    unfold callEvery
    rcases a.accept target with refusal | callback
    · rfl
    · cases period <;> rfl
  | cancelCall key => exact cancelCall_now key
  | cancelEvery key =>
    show (a.cancelEvery key).2.now = a.now
    unfold cancelEvery
    rcases checkKey a.intervals key with bad | _ | handle
    · rfl
    · exact cancelCall_now key
    · exact cancelCall_now (a := { a with intervals := erase a.intervals handle }) key
  | _ => exact arranges.elim

/-- A script of single operations does with another deadline what it does with this one. -/
lemma runSingle_withDeadline {ends : α → Prop} (script : Script (Op τ κ) (Reply ε) α) :
    ∀ a : Agenda τ κ, script.Within Op.Single ends →
      runSingle script (a.withDeadline deadline)
        = ⟨(runSingle script a).log.map (Mark.withDeadline deadline), (runSingle script a).result.1,
          (runSingle script a).result.2.withDeadline deadline⟩ := by
  induction script with
  | stop result => exact fun a _ => rfl
  | act op next ih =>
    intro a within
    obtain ⟨hleaves, hanswer⟩ := perform_withDeadline (ε := ε) within.1 a deadline
    rw [runSingle, runSingle, hanswer, hleaves, ih _ _ (within.2 _)]
    rfl

/-- A callback that neither drains nor looks at the deadline does the same with any. -/
lemma called_withDeadline {b : Behaviour τ κ ε μ} {ends : Ending ε → Prop}
    (within : b.Within Op.Single ends) (blind : b.Blind) (callback : κ) (a : Agenda τ κ) (m : μ)
    (deadline : Option τ) : b.called callback (a.withDeadline deadline) m
      = (b.called callback a m).withDeadline deadline := by
  rw [Behaviour.called, Behaviour.called]
  simp only [(blind callback a m deadline).1, (blind callback a _ deadline).2,
    runSingle_withDeadline _ a (within callback a _)]
  rfl

lemma runSingle_deadline {ends : α → Prop} (script : Script (Op τ κ) (Reply ε) α) :
    ∀ a : Agenda τ κ, script.Within Op.Single ends →
      (runSingle script a).result.2.deadline = a.deadline := by
  induction script with
  | stop result => exact fun a _ => rfl
  | act op next ih =>
    intro a within
    exact (ih _ _ (within.2 _)).trans (leaves_deadline within.1)

/-- The deadline stays while a callback runs that does not drain. -/
lemma called_deadline {b : Behaviour τ κ ε μ} {ends : Ending ε → Prop}
    (within : b.Within Op.Single ends) (callback : κ) (a : Agenda τ κ) (m : μ) :
    (b.called callback a m).result.2.1.deadline = a.deadline :=
  runSingle_deadline _ a (within callback a _)

lemma runSingle_now {ends : α → Prop} (script : Script (Op τ κ) (Reply ε) α) :
    ∀ a : Agenda τ κ, script.Within Op.Arranges ends → (runSingle script a).result.2.now = a.now := by
  induction script with
  | stop result => exact fun a _ => rfl
  | act op next ih =>
    intro a within
    exact (ih _ _ (within.2 _)).trans (leaves_now within.1)

/-- The clock stands still while a callback runs that only registers and cancels. -/
lemma called_now {b : Behaviour τ κ ε μ} {ends : Ending ε → Prop}
    (within : b.Within Op.Arranges ends) (callback : κ) (a : Agenda τ κ) (m : μ) :
    (b.called callback a m).result.2.1.now = a.now :=
  runSingle_now _ a (within callback a _)

end Deadline

end Timer

end SnippetRunner
