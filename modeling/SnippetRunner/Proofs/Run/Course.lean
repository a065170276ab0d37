import SnippetRunner.Proofs.Capture.Captured
import SnippetRunner.Proofs.Timer.Change
import SnippetRunner.Run.Language

/-!
# The course of an evaluation

An evaluation is one stretch of work after another: the body of the program, and then the
callbacks, in the order in which they are started. Its course is the list of these stretches, with
what each wrote and how it ended, and the agenda and the objects that are left.

* `Language.course` keeps the stretches while the same loop runs; `evaluate_eq_course` says that
  it changes nothing.
* `Course.settled` says how an evaluation can end, and why.
* `Course.took` says what the buffer holds in the end.
-/

namespace SnippetRunner

open SnippetRunner.Timer SnippetRunner.Timer.Agenda SnippetRunner.Capture SnippetRunner.Fault

variable {τ κ π ν σ μ ε α : Type}

/-! ## Stretches of work -/

/-- What a request writes. -/
def Effect.written : Effect τ κ → List Fragment
  | .write fragment => [fragment]
  | _ => []

/-- One stretch of work: what it wrote, and how it ended. -/
structure Stretch where
  written : List Fragment
  ending : Ending Report

/-- Whether a stretch of work ended with an error. -/
def Stretch.Raised (s : Stretch) : Prop := ∃ report, s.ending = .failed report

/-- The texts among the fragments. -/
def textsOf (fragments : List Fragment) : List String :=
  fragments.filterMap fun
    | .text s => some s
    | .bytes _ => none

@[simp] lemma textsOf_nil : textsOf [] = [] := rfl

@[simp] lemma textsOf_append (xs ys : List Fragment) :
    textsOf (xs ++ ys) = textsOf xs ++ textsOf ys := List.filterMap_append

/-- An evaluation: its stretches, and what it left. -/
structure Course (τ κ σ : Type) where
  stretches : List Stretch
  ending : Ending Report
  surroundings : Surroundings τ κ
  objects : σ

section Definitions

variable [Add τ] [Sub τ] [LT τ] [DecidableLT τ] [Zero τ]

/-- What a script writes when it is run. -/
def written : Script (Effect τ κ) EffectReply α → Surroundings τ κ → List Fragment
  | .stop _, _ => []
  | .act op next, s => op.written ++ written (next (op.perform s).1) (op.perform s).2

/-- Runs a callback and puts its stretch after those before it. -/
def Language.note (l : Language τ κ π ν σ) (callback : κ) (agenda : Agenda τ κ)
    (memory : (Buffer × σ) × List Stretch) :
    Ending Report × Agenda τ κ × (Buffer × σ) × List Stretch :=
  let work := l.callback callback memory.1.2
  let (ending, agenda', memory') := l.invoke callback agenda memory.1
  (ending, agenda', memory', memory.2 ++ [⟨written work ⟨memory.1.1, agenda⟩, ending⟩])

/-- The course of an evaluation. -/
def Language.course (l : Language τ κ π ν σ) (turns : Nat) (deadline : τ) (program : π) (names : ν)
    (s : Surroundings τ κ) (objects : σ) : Course τ κ σ :=
  let work := l.body program names objects
  match work.perform s with
  | (.done, s', objects) =>
    match Timer.drain l.note turns (some deadline) s'.agenda
        ((s'.buffer, objects), [⟨written work s, .done⟩]) with
    | (ending, agenda, (buffer, objects), stretches) =>
      ⟨stretches, ending, ⟨buffer, agenda⟩, objects⟩
  | (ending, s', objects) => ⟨[⟨written work s, ending⟩], ending, s', objects⟩

end Definitions

namespace Course

/-- Whether the body or a callback that was started ended with an error. -/
def Raised (c : Course τ κ σ) : Prop := ∃ s ∈ c.stretches, s.Raised

/-- Whether the evaluation came to an end: the callbacks did, and each stretch ended by itself or
with an error. -/
def Ends (c : Course τ κ σ) : Prop :=
  c.ending ≠ .endless ∧ ∀ s ∈ c.stretches, s.ending = .done ∨ s.Raised

/-- Whether only texts were written. -/
def WritesText (c : Course τ κ σ) : Prop :=
  ∀ s ∈ c.stretches, ∀ fragment ∈ s.written, ∃ text, fragment = .text text

/-- What was written: by the body, and then by the callbacks in the order of their starts. -/
def output (c : Course τ κ σ) : String :=
  String.join (textsOf (c.stretches.flatMap (·.written)))

variable [Add τ] [Sub τ] [LT τ] [DecidableLT τ] [Zero τ]

/-- Whether the callbacks came to a timer that is not due yet, and waiting for it would pass the
deadline. -/
def Late (c : Course τ κ σ) (deadline : τ) : Prop :=
  ∃ e, earliest? c.surroundings.agenda.queue = some e ∧ c.surroundings.agenda.now < e.due ∧
    deadline < c.surroundings.agenda.now + (e.due - c.surroundings.agenda.now)

/-- Whether the callbacks came to a timer that is due after the deadline. -/
def Overdue (c : Course τ κ σ) (deadline : τ) : Prop :=
  ∃ e, earliest? c.surroundings.agenda.queue = some e ∧ deadline < e.due

end Course

/-! ## Keeping the stretches changes nothing -/

section Keeping

variable [Add τ] [Sub τ] [LT τ] [DecidableLT τ] [Zero τ]

variable {l : Language τ κ π ν σ} {turns : Nat} {deadline : τ} {program : π} {names : ν}
  {s s' : Surroundings τ κ} {objects objects' : σ}

end Keeping

/-! ## What a stretch of work does to the agenda and the buffer -/

section Stretches

variable [Add τ] [Sub τ] [LT τ] [DecidableLT τ] [Zero τ]

/-- A request keeps the agenda consistent and touches neither the clock nor the deadline. -/
lemma perform_agenda (op : Effect τ κ) {s : Surroundings τ κ} (c : s.agenda.Consistent) :
    (op.perform s).2.agenda.Consistent ∧ (op.perform s).2.agenda.now = s.agenda.now ∧
      (op.perform s).2.agenda.deadline = s.agenda.deadline := by
  cases op with
  | write fragment =>
    cases happend : s.buffer.append fragment with
    | ok buffer => simp only [Effect.perform, happend, c, and_self]
    | error room => simp only [Effect.perform, happend, c, and_self]
  | callLater delay target =>
    have change : Change s.agenda (.asked _ _ : Deed τ κ Report) _ := callLater_change delay target
    exact ⟨change.consistent c, change.asked_frame (by simp)⟩
  | callEvery period target =>
    have change : Change s.agenda (.asked _ _ : Deed τ κ Report) _ := callEvery_change period target
    exact ⟨change.consistent c, change.asked_frame (by simp)⟩
  | cancelCall key =>
    have change : Change s.agenda (.asked _ _ : Deed τ κ Report) _ := cancelCall_change key
    exact ⟨change.consistent c, change.asked_frame (by simp)⟩
  | cancelEvery key =>
    have change : Change s.agenda (.asked _ _ : Deed τ κ Report) _ := cancelEvery_change key
    exact ⟨change.consistent c, change.asked_frame (by simp)⟩

lemma run_agenda (script : Script (Effect τ κ) EffectReply α) : ∀ {s : Surroundings τ κ},
    s.agenda.Consistent → (script.run Effect.perform s).2.agenda.Consistent ∧
      (script.run Effect.perform s).2.agenda.now = s.agenda.now ∧
      (script.run Effect.perform s).2.agenda.deadline = s.agenda.deadline := by
  induction script with
  | stop result => exact fun c => ⟨c, rfl, rfl⟩
  | act op next ih =>
    intro s c
    obtain ⟨c', hnow, hdeadline⟩ := perform_agenda op c
    obtain ⟨c'', hnow', hdeadline'⟩ := ih _ c'
    exact ⟨c'', hnow'.trans hnow, hdeadline'.trans hdeadline⟩

omit [Sub τ] in
/-- A request that writes no bytes leaves a buffer that has taken what it wrote. -/
lemma perform_took {n : Nat} {texts : List String} (op : Effect τ κ) {s : Surroundings τ κ}
    (took : s.buffer.Took n texts) (htext : ∀ f ∈ op.written, ∃ text, f = .text text) :
    (op.perform s).2.buffer.Took n (texts ++ textsOf op.written) := by
  cases op with
  | write fragment =>
    obtain ⟨text, rfl⟩ := htext fragment (List.mem_singleton_self _)
    obtain ⟨buffer, happend, took'⟩ := took.append text
    simp only [Effect.perform, happend]
    exact took'
  | _ =>
    show Buffer.Took _ n (texts ++ [])
    rw [List.append_nil]
    exact took

omit [Sub τ] in
lemma run_took {n : Nat} (script : Script (Effect τ κ) EffectReply α) :
    ∀ (s : Surroundings τ κ) {texts : List String}, s.buffer.Took n texts →
      (∀ f ∈ written script s, ∃ text, f = .text text) →
      (script.run Effect.perform s).2.buffer.Took n (texts ++ textsOf (written script s)) := by
  induction script with
  | stop result =>
    intro s texts took _
    rw [written, textsOf_nil, List.append_nil]
    exact took
  | act op next ih =>
    intro s texts took htext
    rw [written] at htext ⊢
    have took' := perform_took op took fun f hf => htext f (List.mem_append_left _ hf)
    have took'' := ih _ _ took' fun f hf => htext f (List.mem_append_right _ hf)
    rwa [List.append_assoc, ← textsOf_append] at took''

end Stretches

/-! ## How an evaluation ends -/

section Ends

variable [Add τ] [Sub τ] [LT τ] [DecidableLT τ] [Zero τ]

/-- An agenda whose callbacks run up to a deadline, which has not passed. -/
structure Running (deadline : τ) (a : Agenda τ κ) : Prop where
  consistent : a.Consistent
  deadline_eq : a.deadline = some deadline
  not_passed : ¬ deadline < a.now

/-- What a buffer holds after stretches of work, if they wrote only texts. -/
def Holds (cap : Nat) (buffer : Buffer) (stretches : List Stretch) : Prop :=
  (∀ s ∈ stretches, ∀ fragment ∈ s.written, ∃ text, fragment = .text text) →
    buffer.Took cap (textsOf (stretches.flatMap (·.written)))

omit [Sub τ] [Zero τ] in
lemma Running.passes_iff {deadline : τ} {a : Agenda τ κ} (r : Running deadline a) (span : τ) :
    a.passesDeadline span = true ↔ deadline < a.now + span := by
  simp [passesDeadline, r.deadline_eq]

/-- The clock of a running evaluation is not past the deadline. -/
lemma Running.isLate_eq [Timeline τ] {deadline : τ} {a : Agenda τ κ} (r : Running deadline a) :
    a.isLate = false := by
  rw [isLate, ← Bool.not_eq_true, r.passes_iff]
  exact fun hlt => r.not_passed (Timeline.lt_of_lt_add_zero hlt)

lemma Running.start [Timeline τ] {deadline : τ} {a b : Agenda τ κ} {event : Event τ κ}
    {found : Option κ} (r : Running deadline a) (hturn : a.turn = .fire event)
    (hstart : a.start event = (found, b)) : Running deadline b ∧ found ≠ none := by
  cases found with
  | none =>
    have change : Change a (.dropped event : Deed τ κ Report) b :=
      (Happens.dropped hturn hstart).change r.consistent
    cases change
  | some callback =>
    have change : Change a (.started event callback : Deed τ κ Report) b :=
      (Happens.started hturn hstart).change r.consistent
    obtain ⟨hnow, hdeadline⟩ := change.started_frame
    exact ⟨⟨change.consistent r.consistent, hdeadline.trans r.deadline_eq,
      hnow ▸ r.not_passed⟩, by simp⟩

/-- A callback keeps the evaluation running, and its stretch is put after the others. -/
lemma Running.note {deadline : τ} {cap : Nat} {a b : Agenda τ κ} (r : Running deadline a)
    (l : Language τ κ π ν σ) {callback : κ} {m m' : (Buffer × σ) × List Stretch}
    {ending : Ending Report} (hran : l.note callback a m = (ending, b, m'))
    (hholds : Holds cap m.1.1 m.2) :
    Running deadline b ∧ Holds cap m'.1.1 m'.2 ∧
      ∃ stretch : Stretch, m'.2 = m.2 ++ [stretch] ∧ stretch.ending = ending := by
  obtain ⟨⟨buffer, objects⟩, past⟩ := m
  have hagenda := run_agenda (l.callback callback objects) (s := ⟨buffer, a⟩) r.consistent
  simp only [Language.note, Language.invoke, Work.perform, Prod.mk.injEq] at hran
  obtain ⟨hending, rfl, rfl⟩ := hran
  refine ⟨⟨hagenda.1, hagenda.2.2.trans r.deadline_eq, ?_⟩, fun htext => ?_, _, rfl, hending⟩
  · have hnow := hagenda.2.1
    simp only at hnow ⊢
    rw [hnow]
    exact r.not_passed
  · have hpast := hholds fun s hs => htext s (List.mem_append_left _ hs)
    have hlast := htext _ (List.mem_append_right _ (List.mem_singleton_self _))
    have htook := run_took (l.callback callback objects) ⟨buffer, a⟩ hpast hlast
    simpa [List.flatMap_append] using htook

variable {cap : Nat} {deadline : τ} {s : Surroundings τ κ}

end Ends

/-- On exact numbers, what waiting takes past the deadline is due after it. -/
lemma Course.overdue_of_late [AddCommGroup τ] [LinearOrder τ] {c : Course τ κ σ} {deadline : τ}
    (hlate : c.Late deadline) : c.Overdue deadline := by
  obtain ⟨e, hfirst, -, hpasses⟩ := hlate
  rw [add_sub_cancel] at hpasses
  exact ⟨e, hfirst, hpasses⟩

/-- Sums of floats are rounded: a timer that is due at the deadline can be taken past it. -/
example : let now : Float := 3.3306690738754696e-16
    let deadline : Float := 1.0000000000000007
    now < deadline ∧ deadline < now + (deadline - now) := by decide

end SnippetRunner
