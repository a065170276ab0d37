import SnippetRunner.Proofs.Config.Overrides

/-!
# Settings that are handed out

Files and the environment may change at any time, and in between the settings of a project are
asked for and loaded. Loading has two steps: the file is read, and then the environment is looked
at. Where the file cannot be taken the manager stays as it was. Where the environment does not fit,
it holds the settings of the file with what the environment had changed by then.

* `Manager.load_cases` says how loading ends.
* `Manager.history` is what happens to a manager, and `Moment.Leaves` which settings a moment
  leaves.
* `settings_exposed` says where settings that are handed out come from.
-/

namespace SnippetRunner.Config

/-! ## Loading once -/

namespace Manager

variable (m : Manager) (around : Surroundings)

/-- Loading ends with the file, with an environment that does not fit, or well. -/
lemma load_cases :
    (∃ fault, m.fileSettings around = .error fault ∧ m.load around = (.error fault, m)) ∨
    (∃ first fault s, m.fileSettings around = .ok first ∧
      first.applyEnvironment around.environment = (.error fault, s) ∧
      m.load around = (.error fault, { m with held := some s })) ∨
    ∃ first s, m.fileSettings around = .ok first ∧
      first.applyEnvironment around.environment = (.ok (), s) ∧
      m.load around = (.ok s, { m with held := some s }) := by
  cases hfile : m.fileSettings around with
  | error fault =>
    refine Or.inl ⟨fault, rfl, ?_⟩
    simp only [load, hfile]
  | ok first =>
    rcases happlied : first.applyEnvironment around.environment with ⟨fault | _, s⟩
    · refine Or.inr (Or.inl ⟨first, fault, s, rfl, happlied, ?_⟩)
      simp only [load, hfile, happlied]
      rfl
    · refine Or.inr (Or.inr ⟨first, s, rfl, happlied, ?_⟩)
      simp only [load, hfile, happlied]
      rfl

end Manager

/-! ## What happens to a manager -/

/-- Something that happens to the settings of a project. -/
inductive Event where
  /-- Files or the environment are changed. -/
  | changed (around : Surroundings)
  | asked
  | loaded

/-- What is around after an event. -/
def Event.surroundings (around : Surroundings) : Event → Surroundings
  | .changed around' => around'
  | _ => around

/-- An event as it took place: what was around, the manager before and after it, and the answer to
it, if it asks for one. -/
structure Moment where
  event : Event
  around : Surroundings
  before : Manager
  after : Manager
  answer : Option (Except Fault Settings)

namespace Manager

/-- What an event does to a manager. -/
def meet (m : Manager) (around : Surroundings) (event : Event) : Moment :=
  match event with
  | .changed _ => ⟨event, around, m, m, none⟩
  | .asked => ⟨event, around, m, (m.settings around).2, some (m.settings around).1⟩
  | .loaded => ⟨event, around, m, (m.load around).2, some (m.load around).1⟩

/-- What events do to a manager, one after another. -/
def history (m : Manager) (around : Surroundings) : List Event → List Moment
  | [] => []
  | event :: rest =>
    m.meet around event :: (m.meet around event).after.history (event.surroundings around) rest

end Manager

namespace Moment

variable (x : Moment) (s : Settings)

/-- Whether settings are loaded: they are when none are held. -/
def Loads : Prop := x.event = .loaded ∨ x.event = .asked ∧ x.before.held = none

/-- Whether settings are loaded from a file that can be taken, or from none, and are these after the
environment has been looked at. -/
def Leaves : Prop :=
  x.Loads ∧ ∃ first, x.before.fileSettings x.around = .ok first ∧
    (first.applyEnvironment x.around.environment).2 = s

/-- Whether loading goes well, and comes to these settings. -/
def Completes : Prop :=
  x.Loads ∧ ∃ first, x.before.fileSettings x.around = .ok first ∧
    first.applyEnvironment x.around.environment = (.ok (), s)

/-- Whether loading ends half way: the file can be taken, and the environment does not fit. -/
def EndsHalfway : Prop :=
  x.Loads ∧ ∃ first fault, x.before.fileSettings x.around = .ok first ∧
    (first.applyEnvironment x.around.environment).1 = .error fault

variable {x s}

/-- Loading that does not end half way is complete. -/
lemma Leaves.completes (leaves : x.Leaves s) (whole : ¬ x.EndsHalfway) : x.Completes s := by
  obtain ⟨loads, first, hfile, hleft⟩ := leaves
  refine ⟨loads, first, hfile, ?_⟩
  rcases happlied : first.applyEnvironment x.around.environment with ⟨fault | _, s'⟩
  · exact (whole ⟨loads, first, fault, hfile, by rw [happlied]⟩).elim
  · rw [happlied] at hleft
    rw [← hleft]

/-- Settings that come from loading completely have passed the checks. -/
lemma Completes.valid (completes : x.Completes s) : s.engine.validate = .ok () := by
  obtain ⟨-, first, -, happlied⟩ := completes
  exact valid_of_applyEnvironment happlied

end Moment

/-! ## One moment -/

namespace Manager

variable (m : Manager) (around : Surroundings) (event : Event)

lemma meet_before : (m.meet around event).before = m := by cases event <;> rfl

lemma meet_around : (m.meet around event).around = around := by cases event <;> rfl

/-- A moment that loads settings does so from the manager and its surroundings. -/
lemma meet_of_loads (loads : (m.meet around event).Loads) :
    (m.meet around event).after = (m.load around).2 ∧
      (m.meet around event).answer = some (m.load around).1 := by
  rcases loads with hevent | ⟨hevent, hnone⟩
  · cases event with
    | loaded => exact ⟨rfl, rfl⟩
    | _ => cases hevent
  · cases event with
    | asked =>
      have hheld : m.held = none := hnone
      have hload : m.settings around = m.load around := by simp only [settings, hheld]
      refine ⟨congrArg Prod.snd hload, ?_⟩
      rw [← hload]
      rfl
    | _ => cases hevent

/-- Any other moment leaves the manager as it is, and is answered with what it holds. -/
lemma meet_of_not_loads (idle : ¬ (m.meet around event).Loads) :
    (m.meet around event).after = m ∧
      ∀ answer, (m.meet around event).answer = some answer →
        ∃ s, m.held = some s ∧ answer = .ok s := by
  cases event with
  | changed around' => exact ⟨rfl, fun answer h => nomatch h⟩
  | loaded => exact (idle (Or.inl rfl)).elim
  | asked =>
    cases hheld : m.held with
    | none => exact (idle (Or.inr ⟨rfl, hheld⟩)).elim
    | some s =>
      have hsettings : m.settings around = (.ok s, m) := by simp only [settings, hheld]
      refine ⟨congrArg Prod.snd hsettings, fun answer h => ⟨s, rfl, ?_⟩⟩
      have hanswer : some (m.settings around).1 = some answer := h
      rw [hsettings, Option.some.injEq] at hanswer
      exact hanswer.symm

/-- A moment leaves the manager as it is, or leaves settings of its own there. These are the answer,
unless loading ended half way. -/
lemma meet_cases :
    ((∀ s, ¬ (m.meet around event).Leaves s) ∧ (m.meet around event).after = m ∧
      ∀ s, (m.meet around event).answer = some (.ok s) → m.held = some s) ∨
    ∃ s, (m.meet around event).Leaves s ∧ (m.meet around event).after = { m with held := some s } ∧
      ((m.meet around event).EndsHalfway ∧
          (∃ fault, (m.meet around event).answer = some (.error fault)) ∨
        (m.meet around event).answer = some (.ok s)) := by
  by_cases loads : (m.meet around event).Loads
  · obtain ⟨hafter, hanswer⟩ := m.meet_of_loads around event loads
    rw [hafter, hanswer]
    have hbefore := m.meet_before around event
    have haround := m.meet_around around event
    -- loading leaves nothing, what the environment had changed by then, or all of it
    rcases m.load_cases around with ⟨fault, hfile, hload⟩ |
      ⟨first, fault, s, hfile, happlied, hload⟩ | ⟨first, s, hfile, happlied, hload⟩
    · refine Or.inl ⟨?_, by rw [hload], fun s h => ?_⟩
      · rintro s ⟨-, first, hfirst, -⟩
        rw [hbefore, haround, hfile] at hfirst
        cases hfirst
      · rw [hload] at h
        cases h
    · refine Or.inr ⟨s, ⟨loads, first, ?_, ?_⟩, by rw [hload],
        Or.inl ⟨⟨loads, first, fault, ?_, ?_⟩, fault, ?_⟩⟩
      · rw [hbefore, haround, hfile]
      · rw [haround, happlied]
      · rw [hbefore, haround, hfile]
      · rw [haround, happlied]
      · rw [hload]
    · refine Or.inr ⟨s, ⟨loads, first, ?_, ?_⟩, by rw [hload], Or.inr (by rw [hload])⟩
      · rw [hbefore, haround, hfile]
      · rw [haround, happlied]
  · obtain ⟨hafter, hanswer⟩ := m.meet_of_not_loads around event loads
    refine Or.inl ⟨fun s leaves => loads leaves.1, hafter, fun s h => ?_⟩
    obtain ⟨s', hheld, hok⟩ := hanswer _ h
    rw [hheld, Except.ok.inj hok]

end Manager

/-! ## Where settings come from -/

/-- Whether settings are what was left by the last moment that left any. -/
def LeftBy (past : List Moment) (s : Settings) : Prop :=
  ∃ earlier x later, past = earlier ++ x :: later ∧ x.Leaves s ∧ ∀ y ∈ later, ∀ t, ¬ y.Leaves t

namespace Manager

variable {m : Manager} {past : List Moment}

/-- What is held after a moment was left by the last moment that left any, if this was so before. -/
lemma meet_leftBy (held : ∀ s, m.held = some s → LeftBy past s) (around : Surroundings)
    (event : Event) {s : Settings} (hs : (m.meet around event).after.held = some s) :
    LeftBy (past ++ [m.meet around event]) s := by
  rcases m.meet_cases around event with ⟨idle, hafter, -⟩ | ⟨s', leaves, hafter, -⟩
  · -- this moment left nothing, so it is one of the later ones
    rw [hafter] at hs
    obtain ⟨earlier, x, later, rfl, hleaves, hlater⟩ := held s hs
    refine ⟨earlier, x, later ++ [m.meet around event], by simp, hleaves, fun y hy => ?_⟩
    rcases List.mem_append.mp hy with hy | hy
    · exact hlater y hy
    · rw [List.mem_singleton.mp hy]
      exact idle
  · rw [hafter, Option.some.injEq] at hs
    exact ⟨past, _, [], rfl, hs ▸ leaves, by simp⟩

/-- What is handed out is held from then on. -/
lemma held_of_answer (around : Surroundings) (event : Event) {s : Settings}
    (answered : (m.meet around event).answer = some (.ok s)) :
    (m.meet around event).after.held = some s := by
  rcases m.meet_cases around event with ⟨-, hafter, hanswer⟩ | ⟨s', -, hafter, ⟨-, fault, h⟩ | h⟩
  · rw [hafter]
    exact hanswer s answered
  · rw [h] at answered
    cases answered
  · rw [h, Option.some.injEq, Except.ok.injEq] at answered
    rw [hafter, answered]

/-- Settings that are handed out in the course of events were left by the last moment that left
any. -/
lemma history_leftBy (events : List Event) :
    ∀ {m : Manager} {past : List Moment} (around : Surroundings),
    (∀ s, m.held = some s → LeftBy past s) →
    ∀ (i : Nat) (x : Moment) (s : Settings), (m.history around events)[i]? = some x →
      x.answer = some (.ok s) → LeftBy (past ++ (m.history around events).take (i + 1)) s := by
  -- `past` is general: what is held at the start of the rest was left by a moment before it
  induction events with
  | nil =>
    intro m past around held i x s hx
    cases hx
  | cons event rest ih =>
    intro m past around held i x s hx answered
    have hnext : ∀ {s}, (m.meet around event).after.held = some s →
        LeftBy (past ++ [m.meet around event]) s := m.meet_leftBy held around event
    rw [history, List.take_succ_cons]
    cases i with
    | zero =>
      obtain rfl : m.meet around event = x := Option.some.inj hx
      exact hnext (held_of_answer around event answered)
    | succ i =>
      have hrest := ih (event.surroundings around) (fun s => hnext) i x s hx answered
      rwa [List.append_assoc, List.singleton_append] at hrest

/-- Every moment of a history is one event that a manager met. -/
lemma mem_history (events : List Event) : ∀ {m : Manager} {around : Surroundings} {x : Moment},
    x ∈ m.history around events → ∃ m' around' event, x = Manager.meet m' around' event := by
  induction events with
  | nil => exact fun hx => nomatch hx
  | cons event rest ih =>
    intro m around x hx
    rcases List.mem_cons.mp hx with rfl | hx
    · exact ⟨m, around, event, rfl⟩
    · exact ih hx

end Manager

/-- What is handed out in any course of changes, questions and loads, by a manager that has nothing
at first.

A moment that raises leaves the manager as it was, unless loading ended half way, where the file
could be taken and the environment did not fit; then the manager holds what this left. Settings that
are handed out are those of the last moment that left any. If that one did not end half way, they
come from loading completely, and have passed the checks. -/
theorem settings_exposed (root : File.Path) (around : Surroundings) (events : List Event) :
    let history := Manager.history { root } around events
    (∀ x ∈ history, ∀ fault, x.answer = some (.error fault) →
      x.after = x.before ∨ x.EndsHalfway) ∧
    (∀ x ∈ history, x.EndsHalfway →
      ∃ s, x.Leaves s ∧ x.after = { x.before with held := some s }) ∧
    ∀ (i : Nat) (x : Moment) (s : Settings), history[i]? = some x → x.answer = some (.ok s) →
      ∃ earlier y later, history.take (i + 1) = earlier ++ y :: later ∧ y.Leaves s ∧
        (∀ z ∈ later, ∀ t, ¬ z.Leaves t) ∧
        (¬ y.EndsHalfway → y.Completes s ∧ s.engine.validate = .ok ()) := by
  intro history
  refine ⟨fun x hx fault raised => ?_, fun x hx halfway => ?_, fun i x s hx answered => ?_⟩
  · obtain ⟨m, around', event, rfl⟩ := Manager.mem_history events hx
    rw [m.meet_before]
    rcases m.meet_cases around' event with ⟨-, hafter, -⟩ | ⟨s, -, -, ⟨halfway, -⟩ | hanswer⟩
    · exact Or.inl hafter
    · exact Or.inr halfway
    · rw [hanswer] at raised
      cases raised
  · obtain ⟨m, around', event, rfl⟩ := Manager.mem_history events hx
    rw [m.meet_before]
    rcases m.meet_cases around' event with ⟨idle, -, -⟩ | ⟨s, leaves, hafter, -⟩
    · obtain ⟨loads, first, fault, hfile, -⟩ := halfway
      exact (idle _ ⟨loads, first, hfile, rfl⟩).elim
    · exact ⟨s, leaves, hafter⟩
  · have hnothing : ∀ s, (Manager.mk root none).held = some s → LeftBy [] s := fun s h => nomatch h
    obtain ⟨earlier, y, later, htake, leaves, hlater⟩ :=
      Manager.history_leftBy events around hnothing i x s hx answered
    refine ⟨earlier, y, later, htake, leaves, hlater, fun whole => ?_⟩
    have completes := leaves.completes whole
    exact ⟨completes, completes.valid⟩

/-! ## An environment that does not fit -/

/-- Nothing but an environment with a deadline below zero. -/
def belowZero : Surroundings := { environment := { deadline := some "-1" } }

/-- The limits that this environment makes of the usual ones. -/
def limitBelowZero : EngineSettings := { deadline := .float (-1.0) }

/-- What is told of these limits. -/
def notPositiveFault : Fault := .rejected "engine.deadline_seconds must be positive, got -1.0"

lemma validate_limitBelowZero : limitBelowZero.validate = .error notPositiveFault := by decide

lemma readFloat_belowZero : Number.readFloat? "-1" = some (-1.0) := by
  rw [Number.readFloat?, Number.trimmed_of_plain (by cbv)]
  rfl

/-- The environment sets the deadline, and the checks refuse what comes of it. -/
lemma applied_belowZero : ({} : Settings).applyEnvironment belowZero.environment
    = (.error notPositiveFault, { engine := limitBelowZero }) := by
  have asks : belowZero.environment.Asks { deadline := some (-1.0) } :=
    ⟨asked_of_read (by decide) readFloat_belowZero, rfl, rfl⟩
  have hless : ({} : Settings).engine.maxDeadline.less (.float (-1.0)) = .ok false := rfl
  have hcompared : ({} : Settings).compared (some (-1.0)) = .ok () := by
    rw [Settings.compared, hless]
  have hafter : ({} : Settings).override { deadline := some (-1.0) } = { engine := limitBelowZero } := by
    simp only [Settings.override, raised_of_not_less hless]
    rfl
  rw [Settings.applyEnvironment_of_asks asks hcompared, hafter, validate_limitBelowZero]

lemma load_belowZero : Manager.load {} belowZero
    = (.error notPositiveFault, { held := some { engine := limitBelowZero } }) := by
  have hfile : Manager.fileSettings {} belowZero = .ok {} := by rfl
  rcases Manager.load_cases {} belowZero with ⟨fault, h, -⟩ |
    ⟨first, fault, s, h, happlied, hload⟩ | ⟨first, s, h, happlied, -⟩
  · rw [hfile] at h
    cases h
  · obtain rfl := Except.ok.inj (hfile.symm.trans h)
    rw [applied_belowZero, Prod.mk.injEq, Except.error.injEq] at happlied
    obtain ⟨rfl, rfl⟩ := happlied
    exact hload
  · obtain rfl := Except.ok.inj (hfile.symm.trans h)
    rw [applied_belowZero] at happlied
    cases happlied

/-- The first question raises because the deadline is not positive, and the second one is answered
with settings that do not pass the checks for the same reason. -/
theorem settings_exposed_half_way :
    ∃ x y s, Manager.history {} belowZero [.asked, .asked] = [x, y] ∧
      x.before.held = none ∧ x.answer = some (.error notPositiveFault) ∧ x.after.held = some s ∧
      y.answer = some (.ok s) ∧ s.engine.validate = .error notPositiveFault := by
  have hasked : Manager.settings {} belowZero = Manager.load {} belowZero := rfl
  have hafter : (Manager.meet {} belowZero .asked).after
      = { held := some { engine := limitBelowZero } } := by
    rw [Manager.meet, hasked, load_belowZero]
  refine ⟨Manager.meet {} belowZero .asked,
    Manager.meet { held := some { engine := limitBelowZero } } belowZero .asked,
    { engine := limitBelowZero }, ?_, rfl, ?_, by rw [hafter], rfl, validate_limitBelowZero⟩
  · rw [Manager.history, hafter]
    rfl
  · rw [Manager.meet, hasked, load_belowZero]

end SnippetRunner.Config
