import SnippetRunner.Proofs.Run.Interleaving
import SnippetRunner.Proofs.Run.Outcomes

/-!
# What a run registers

A run takes a number, registers its source under it, writes its reports and takes its source out
again, in single steps on a registry that it shares with other runs.

* `Job.Obeys` says what a run with a number may still do, and `Job.afterNumber_obeys` that it does
  nothing else.
* `Deed` is a step with the registry that it met, and `chronicle` lists those of an interleaving.
* `Job.Minds` says that a step keeps to the source of its own run, which holds of every step that a
  run may take (`Job.Obeys.minds`).
-/

namespace SnippetRunner

open SnippetRunner.Fault SnippetRunner.Timer

variable {τ κ π ν σ : Type}

/-! ## The sources of a file -/

namespace Fault.SourceLines

variable (cache : SourceLines) {file other : String} {source : String}

/-- What is registered under the name of a file. -/
def entries (file : String) : SourceLines := cache.filter (·.1 == file)

lemma entries_register_self :
    (cache.register file source).entries file = [(file, Text.displayLines source)] := by
  simp [entries, register, List.filter_filter]

lemma entries_register_of_ne (hne : other ≠ file) :
    (cache.register file source).entries other = cache.entries other := by
  unfold entries register
  rw [List.filter_cons_of_neg (by simpa using Ne.symm hne), List.filter_filter]
  refine List.filter_congr fun entry _ => ?_
  by_cases hentry : entry.1 = other <;> simp [hentry, hne]

lemma entries_remove_self : (cache.remove file).entries file = [] := by
  simp [entries, remove, List.filter_filter]

lemma entries_remove_of_ne (hne : other ≠ file) :
    (cache.remove file).entries other = cache.entries other := by
  unfold entries remove
  rw [List.filter_filter]
  refine List.filter_congr fun entry _ => ?_
  by_cases hentry : entry.1 = other <;> simp [hentry, hne]

variable {cache}

lemma entries_eq_nil : cache.entries file = [] ↔ ∀ entry ∈ cache, entry.1 ≠ file := by
  simp [entries, List.filter_eq_nil_iff]

/-- A frame is shown with the sources of its own file. -/
lemma lines_congr {cache' : SourceLines} {frame : Frame}
    (hentries : cache'.entries frame.file = cache.entries frame.file) :
    frame.lines cache' = frame.lines cache := by
  have hfind : cache'.find? (·.1 == frame.file) = cache.find? (·.1 == frame.file) := by
    rw [← List.head?_filter, ← List.head?_filter]
    exact congrArg List.head? hentries
  have hline : ∀ n, cache'.line frame.file n = cache.line frame.file n := by
    intro n
    simp only [line, lines, hfind]
  unfold Frame.lines
  rw [hline]

end Fault.SourceLines

/-- Runs have files of their own. -/
lemma snippetFile_injective {n m : Nat} (h : snippetFile n = snippetFile m) : n = m := by
  have hnumber : toString "<snippet-" ++ toString n ++ toString ">"
      = toString "<snippet-" ++ toString m ++ toString ">" := h
  rw [String.append_left_inj, String.append_right_inj] at hnumber
  exact Nat.repr_injective hnumber

/-! ## What a run does -/

/-- Everything that a run is given. -/
structure Job (τ κ π ν σ : Type) where
  language : Language τ κ π ν σ
  deadline : Deadline τ
  source : String
  context : Context τ κ ν
  objects : σ
  prepare : Option Preparation := none

namespace Job

variable (job : Job τ κ π ν σ)

/-- What the run does. -/
def script [Add τ] [Sub τ] [LT τ] [DecidableLT τ] [Zero τ] : Registered (Finished τ κ ν σ) :=
  execute job.language job.deadline job.source job.context job.objects job.prepare

/-- What the preparation makes of the source. -/
def result : Except Raised String := (prepared job.prepare job.source).result

/-- The text that is evaluated, unless the preparation raises an error. -/
def text? : Option String := job.result.toOption

/-- Where the diagnostic of a fault comes from: a report that was written, the deadline, or an error
of the transpiler. -/
def Tells (wrote : String → Prop) (outcome : Except Raised Outcome) : Prop :=
  ∀ diagnostic kind, outcome = .ok (.fault diagnostic kind) →
    wrote diagnostic ∨ kind = .timeout ∧ diagnostic = job.deadline.message ∨
      kind = .transpile ∧ ∃ error, job.result = .error error ∧ diagnostic = error.text

/-- What a run with a number may still do, where it has registered a text or none and has written
some reports: it registers its own text before it writes any report of it, and ends once it has taken
its source out. -/
inductive Obeys (n : Nat) :
    Option String → List String → Registered (Finished τ κ ν σ) → Prop where
  | register {told : List String} {text : String}
      {next : RegistryReply → Registered (Finished τ κ ν σ)} (own : job.text? = some text)
      (rest : Obeys n (some text) told (next .nothing)) :
      Obeys n none told (.act (.register (snippetFile n) text) next)
  | render {told : List String} {report : Report}
      {next : RegistryReply → Registered (Finished τ κ ν σ)}
      (rest : ∀ s, Obeys n job.text? (s :: told) (next (.text s))) :
      Obeys n job.text? told (.act (.render report) next)
  | remove {shown : Option String} {told : List String} {finished : Finished τ κ ν σ}
      {next : RegistryReply → Registered (Finished τ κ ν σ)}
      (tells : job.Tells (· ∈ told) finished.outcome)
      (rest : next .nothing = .stop finished) :
      Obeys n shown told (.act (.remove (snippetFile n)) next)

variable {job}

lemma tells_written {told : List String} (text : String) (kind : FaultKind) :
    job.Tells (· ∈ text :: told) (.ok (.fault text kind)) := by
  intro diagnostic kind' h
  cases h
  exact Or.inl List.mem_cons_self

lemma tells_late (wrote : String → Prop) :
    job.Tells wrote (.ok (.fault job.deadline.message .timeout)) := by
  intro diagnostic kind h
  cases h
  exact Or.inr (Or.inl ⟨rfl, rfl⟩)

lemma tells_transpile {error : Raised} (hresult : job.result = .error error)
    (wrote : String → Prop) : job.Tells wrote (.ok (.fault error.text .transpile)) := by
  intro diagnostic kind h
  cases h
  exact Or.inr (Or.inr ⟨rfl, error, hresult, rfl⟩)

lemma tells_success (wrote : String → Prop) (text : String) :
    job.Tells wrote (.ok (.success text)) :=
  fun _ _ h => nomatch h

lemma tells_error (wrote : String → Prop) (error : Raised) : job.Tells wrote (.error error) :=
  fun _ _ h => nomatch h

/-- A run that has come to its outcome takes its source out. -/
lemma obeys_finishRun {n : Nat} {shown : Option String} {told : List String}
    {outcome : Except Raised Outcome} {context : Context τ κ ν} {objects : σ} {log : List Record}
    (tells : job.Tells (· ∈ told) outcome) :
    job.Obeys n shown told (finishRun job.language n outcome context objects log) :=
  .remove tells rfl

/-- A run whose preparation raised an error writes a report of it at most. -/
lemma obeys_of_raised {n : Nat} {error : Raised} (hresult : job.result = .error error) :
    job.Obeys n none [] (preparationOutcome error >>= fun outcome =>
      finishRun job.language n outcome job.context job.objects
        (prepared job.prepare job.source).log) := by
  have hnone : job.text? = none := by
    rw [text?, hresult]
    rfl
  unfold preparationOutcome
  split_ifs
  · exact obeys_finishRun (tells_transpile hresult _)
  · cases error.reportProblem? with
    | some problem => exact obeys_finishRun (tells_error _ _)
    | none =>
      rw [← hnone]
      exact .render fun text => obeys_finishRun (tells_written text _)
  · exact obeys_finishRun (tells_error _ _)

/-- An evaluation that ended writes a report at most. -/
lemma obeys_of_ended {n : Nat} (ending : Ending Report) (output : Capture.Buffer)
    (context : Context τ κ ν) (objects : σ) (log : List Record) :
    job.Obeys n job.text? [] ((do
      let outcome ← outcomeOf (snippetFile n) job.deadline ending output
      return (outcome, context, objects)) >>= fun r =>
        finishRun job.language n (.ok r.1) r.2.1 r.2.2 log) := by
  unfold outcomeOf
  cases job.deadline.unusable with
  | some problem => exact .render fun text => obeys_finishRun (tells_written text _)
  | none =>
    cases ending with
    | late => exact obeys_finishRun (tells_late _)
    | endless => exact obeys_finishRun (tells_late _)
    | failed report => exact .render fun text => obeys_finishRun (tells_written text _)
    | done =>
      cases output.value with
      | ok text => exact obeys_finishRun (tells_success _ _)
      | error notText => exact .render fun text => obeys_finishRun (tells_written text _)

variable [Add τ] [Sub τ] [LT τ] [DecidableLT τ] [Zero τ]

/-- A run whose source was prepared registers it first. -/
lemma obeys_of_prepared {n : Nat} {text : String} (hresult : job.result = .ok text) :
    job.Obeys n none [] (evaluateSource job.language (snippetFile n) job.deadline text job.context
      job.objects >>= fun r => finishRun job.language n (.ok r.1) r.2.1 r.2.2
        (prepared job.prepare job.source).log) := by
  have hown : job.text? = some text := by
    rw [text?, hresult]
    rfl
  unfold evaluateSource
  refine .register hown ?_
  -- from here on the run shows all that it will register
  rw [← hown]
  cases hcompiled : job.language.compile (snippetFile n) text with
  | error report => exact .render fun text => obeys_finishRun (tells_written text _)
  | ok program => exact obeys_of_ended ..

/-- What a run does once it has taken a number. -/
def afterNumber (n : Nat) : Registered (Finished τ κ ν σ) :=
  match job.result with
  | .error error => preparationOutcome error >>= fun outcome =>
    finishRun job.language n outcome job.context job.objects (prepared job.prepare job.source).log
  | .ok text => evaluateSource job.language (snippetFile n) job.deadline text job.context
      job.objects >>= fun r =>
    finishRun job.language n (.ok r.1) r.2.1 r.2.2 (prepared job.prepare job.source).log

/-- A run takes a number first. -/
lemma script_eq : ∃ next, job.script = .act .takeNumber next ∧
    ∀ n, next (.number n) = job.afterNumber n := by
  refine ⟨_, rfl, fun n => ?_⟩
  obtain ⟨language, deadline, source, context, objects, prepare⟩ := job
  cases prepare <;> rfl

/-- Once it has taken a number, a run does nothing but what a run with this number may do. -/
lemma afterNumber_obeys (job : Job τ κ π ν σ) (n : Nat) :
    job.Obeys n none [] (job.afterNumber n) := by
  unfold afterNumber
  split
  case h_1 error hresult => exact obeys_of_raised hresult
  case h_2 text hresult => exact obeys_of_prepared hresult

end Job

/-! ## Steps with the registry that they met -/

/-- A step of a party, and the registry that it met. -/
structure Deed where
  party : Nat
  step : RegistryStep
  before : Registry

namespace Deed

variable (d : Deed)

/-- The registry that a step leaves. -/
def after : Registry := (d.step.perform d.before).2

/-- The number that a step takes. -/
def number? : Option Nat :=
  match d.step with
  | .takeNumber => some d.before.nextRun
  | _ => none

/-- The text that a step writes. -/
def text? : Option String :=
  match d.step with
  | .render report => some (report.text d.before.sources)
  | _ => none

end Deed

/-- The numbers that are taken, in order. -/
def numbers (past : List Deed) : List Nat := past.filterMap Deed.number?

/-- Whether a party has taken a number. -/
def Took (past : List Deed) (i n : Nat) : Prop := ∃ d ∈ past, d.party = i ∧ d.number? = some n

/-- Whether a party has written a text. -/
def Wrote (past : List Deed) (i : Nat) (text : String) : Prop :=
  ∃ d ∈ past, d.party = i ∧ d.text? = some text

section Past

variable {past : List Deed} {d : Deed} {i n : Nat} {text : String}

lemma numbers_concat : numbers (past ++ [d]) = numbers past ++ d.number?.toList := by
  unfold numbers
  rw [List.filterMap_append]
  cases hnumber : d.number? <;> simp [hnumber]

lemma mem_numbers : n ∈ numbers past ↔ ∃ i, Took past i n := by
  simp only [numbers, List.mem_filterMap, Took]
  exact ⟨fun ⟨d, hd, hn⟩ => ⟨d.party, d, hd, rfl, hn⟩, fun ⟨_, d, hd, _, hn⟩ => ⟨d, hd, hn⟩⟩

lemma took_concat :
    Took (past ++ [d]) i n ↔ Took past i n ∨ d.party = i ∧ d.number? = some n := by
  simp [Took, or_and_right, exists_or]

lemma wrote_concat :
    Wrote (past ++ [d]) i text ↔ Wrote past i text ∨ d.party = i ∧ d.text? = some text := by
  simp [Wrote, or_and_right, exists_or]

lemma Took.concat (h : Took past i n) : Took (past ++ [d]) i n := took_concat.2 (.inl h)

lemma Wrote.concat (h : Wrote past i text) : Wrote (past ++ [d]) i text := wrote_concat.2 (.inl h)

end Past

/-- The steps so far, and the registry that they left. -/
structure Chronicle where
  deeds : List Deed := []
  registry : Registry

/-- Goes on with a move; nobody else changes the registry. -/
def Chronicle.note (past : Chronicle) : Move (Job τ κ π ν σ) RegistryStep → Chronicle
  | .stepped party step =>
    ⟨past.deeds ++ [⟨party, step, past.registry⟩], (step.perform past.registry).2⟩
  | _ => past

/-- The steps that moves come to, from a registry on. -/
def chronicle (first : Registry) (log : List (Move (Job τ κ π ν σ) RegistryStep)) : Chronicle :=
  log.foldl Chronicle.note { registry := first }

lemma chronicle_concat (first : Registry) (log : List (Move (Job τ κ π ν σ) RegistryStep))
    (move : Move (Job τ κ π ν σ) RegistryStep) :
    chronicle first (log ++ [move]) = (chronicle first log).note move :=
  List.foldl_concat ..

/-- Those who have joined, in order. -/
def joiners {ι Op : Type} (log : List (Move ι Op)) : List ι :=
  log.filterMap fun
    | .joined i => some i
    | _ => none

section Joiners

variable {ι Op : Type} (log : List (Move ι Op))

@[simp] lemma joiners_joined (i : ι) : joiners (log ++ [.joined i]) = joiners log ++ [i] := by
  simp [joiners]

@[simp] lemma joiners_stepped (party : Nat) (op : Op) :
    joiners (log ++ [.stepped party op]) = joiners log := by
  simp [joiners]

@[simp] lemma joiners_watched : joiners (log ++ [.watched]) = joiners log := by
  simp [joiners]

end Joiners

/-! ## Steps that keep to one source -/

/-- The sources of a run's file, where it has registered a text or none. -/
def ownLines (n : Nat) (shown : Option String) : SourceLines :=
  (shown.map fun text => (snippetFile n, Text.displayLines text)).toList

lemma ownLines_entries (n : Nat) (shown : Option String) :
    (ownLines n shown).entries (snippetFile n) = ownLines n shown := by
  cases shown <;> simp [ownLines, SourceLines.entries]

/-- What a run with a number does to the registry, and what it shows of it: it registers its
prepared text where there was nothing, takes out nothing but its own source, and shows the frames of
its file with its own text, or without any where the preparation failed. -/
def Job.Minds (job : Job τ κ π ν σ) (n : Nat) (d : Deed) : Prop :=
  match d.step with
  | .takeNumber => False
  | .register file source => file = snippetFile n ∧ job.text? = some source ∧
      d.before.sources.entries file = []
  | .remove file => file = snippetFile n
  | .render _ => ∀ frame : Frame, frame.file = snippetFile n →
      frame.lines d.before.sources = frame.lines (ownLines n job.text?)

namespace Job.Minds

variable {job : Job τ κ π ν σ} {n : Nat} {d : Deed}

lemma number? (h : job.Minds n d) : d.number? = none := by
  unfold Minds at h
  unfold Deed.number?
  split at h <;> simp_all

lemma nextRun (h : job.Minds n d) : d.after.nextRun = d.before.nextRun := by
  unfold Minds at h
  unfold Deed.after
  split at h <;> simp_all [RegistryStep.perform]

/-- The sources of other files stay as they are. -/
lemma entries (h : job.Minds n d) {file : String} (hother : file ≠ snippetFile n) :
    d.after.sources.entries file = d.before.sources.entries file := by
  unfold Minds at h
  unfold Deed.after
  split at h
  case h_1 => exact h.elim
  case h_2 hstep =>
    rw [hstep, h.1]
    exact SourceLines.entries_register_of_ne _ hother
  case h_3 hstep =>
    rw [hstep, h]
    exact SourceLines.entries_remove_of_ne _ hother
  case h_4 hstep =>
    rw [hstep]
    rfl

/-- What is registered for files other than some, the run's own among them, stays in its order. -/
lemma filter (h : job.Minds n d) {files : List String} (hown : snippetFile n ∈ files) :
    d.after.sources.filter (·.1 ∉ files) = d.before.sources.filter (·.1 ∉ files) := by
  have hremoved : ∀ sources : SourceLines,
      (sources.filter (·.1 != snippetFile n)).filter (·.1 ∉ files)
        = sources.filter (·.1 ∉ files) := by
    intro sources
    rw [List.filter_filter]
    refine List.filter_congr fun entry _ => ?_
    by_cases hentry : entry.1 = snippetFile n <;> simp [hentry, hown]
  unfold Minds at h
  unfold Deed.after
  split at h
  case h_1 => exact h.elim
  case h_2 hstep =>
    rw [hstep, h.1]
    exact (List.filter_cons_of_neg (by simpa using hown)).trans (hremoved _)
  case h_3 hstep =>
    rw [hstep, h]
    exact hremoved _
  case h_4 hstep =>
    rw [hstep]
    rfl

end Job.Minds

/-- A run does nothing but what it may do, so that it minds its own source. -/
lemma Job.Obeys.minds {job : Job τ κ π ν σ} {n : Nat} {shown : Option String} {told : List String}
    {d : Deed} {next : RegistryReply → Registered (Finished τ κ ν σ)}
    (h : job.Obeys n shown told (.act d.step next))
    (hentries : d.before.sources.entries (snippetFile n) = ownLines n shown) : job.Minds n d := by
  unfold Minds
  generalize hstep : d.step = step at h
  cases h with
  | register own rest => exact ⟨rfl, own, hentries⟩
  | render rest =>
    refine fun frame hframe => SourceLines.lines_congr ?_
    rw [hframe, hentries, ownLines_entries]
  | remove tells rest => rfl

end SnippetRunner
