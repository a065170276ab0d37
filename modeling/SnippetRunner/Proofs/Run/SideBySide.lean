import SnippetRunner.Proofs.Run.Registration

/-!
# Runs side by side

Runs share the number of the next run and the sources that reports may show. Any run may take its
steps between those of another one, and new ones may begin at any time.

* `Stands` says where a run stands, and what is registered for it there.
* `Tended` relates all runs to the registry. `Tended.steps` and `Tended.joins` say that every move
  keeps to it, and `Tended.leads` that it holds in every interleaving.
* `runs_side_by_side` is what any interleaving of any runs comes to.
-/

namespace SnippetRunner

open SnippetRunner.Fault SnippetRunner.Timer

variable {τ κ π ν σ : Type} [Add τ] [Sub τ] [LT τ] [DecidableLT τ] [Zero τ]

/-- Runs on one registry. Every step of theirs may be taken at any time. -/
def runs : Commons (Job τ κ π ν σ) RegistryStep RegistryReply (Finished τ κ ν σ) Registry where
  script job := job.script
  allowed _ _ := True
  perform := RegistryStep.perform

/-- Where a run stands: it has no number yet, or does what a run with its number may do, or has
ended. The sources of its file are those that it has registered. -/
inductive Stands (past : List Deed) (sources : SourceLines) (i : Nat) (job : Job τ κ π ν σ) :
    Registered (Finished τ κ ν σ) → Prop where
  | waiting (fresh : ∀ n, ¬ Took past i n) : Stands past sources i job job.script
  | running {n : Nat} {shown : Option String} {told : List String}
      {script : Registered (Finished τ κ ν σ)} (took : Took past i n)
      (obeys : job.Obeys n shown told script)
      (entries : sources.entries (snippetFile n) = ownLines n shown)
      (wrote : ∀ text ∈ told, Wrote past i text) : Stands past sources i job script
  | ended {n : Nat} {finished : Finished τ κ ν σ} (took : Took past i n)
      (tells : job.Tells (Wrote past i) finished.outcome)
      (gone : sources.entries (snippetFile n) = []) : Stands past sources i job (.stop finished)

variable {first : Registry} {past : List Deed} {team : List (Job τ κ π ν σ)}
  {c : Crowd RegistryStep RegistryReply (Finished τ κ ν σ) Registry} {job : Job τ κ π ν σ}
  {script : Registered (Finished τ κ ν σ)} {sources sources' : SourceLines} {i n : Nat} {d : Deed}

/-- A run stands where it stood after a step of another one. -/
lemma Stands.aside (h : Stands past sources i job script) (hother : d.party ≠ i)
    (hsame : ∀ n, Took past i n →
      sources'.entries (snippetFile n) = sources.entries (snippetFile n)) :
    Stands (past ++ [d]) sources' i job script := by
  cases h with
  | waiting fresh =>
    refine .waiting fun n hn => ?_
    exact (took_concat.1 hn).elim (fresh n) fun h => hother h.1
  | running took obeys entries wrote =>
    exact .running took.concat obeys ((hsame _ took).trans entries) fun text ht =>
      (wrote text ht).concat
  | ended took tells gone =>
    refine .ended took.concat (fun diagnostic kind h => ?_) ((hsame _ took).trans gone)
    exact (tells diagnostic kind h).imp_left Wrote.concat

/-- A run that does what it may do stands where it may go on, or has ended. -/
lemma Stands.acts {shown : Option String} {told : List String}
    {next : RegistryReply → Registered (Finished τ κ ν σ)} (took : Took past d.party n)
    (obeys : job.Obeys n shown told (.act d.step next))
    (entries : d.before.sources.entries (snippetFile n) = ownLines n shown)
    (wrote : ∀ text ∈ told, Wrote past d.party text) :
    Stands (past ++ [d]) d.after.sources d.party job (next (d.step.perform d.before).1) := by
  unfold Deed.after
  generalize hstep : d.step = step at obeys
  cases obeys with
  | register own rest =>
    exact .running took.concat rest (SourceLines.entries_register_self _) fun text ht =>
      (wrote text ht).concat
  | render rest =>
    refine .running took.concat (rest _) entries fun text ht => ?_
    rcases List.mem_cons.1 ht with rfl | ht
    · exact wrote_concat.2 (.inr ⟨rfl, by rw [Deed.text?, hstep]⟩)
    · exact (wrote text ht).concat
  | remove tells rest =>
    rw [show next (RegistryStep.perform (.remove (snippetFile n)) d.before).1 = _ from rest]
    refine .ended took.concat (fun diagnostic kind h => ?_) (SourceLines.entries_remove_self _)
    exact (tells diagnostic kind h).imp_left fun ht => (wrote _ ht).concat

/-- How runs and the registry that they share fit together. -/
structure Tended (first : Registry) (past : List Deed) (team : List (Job τ κ π ν σ))
    (c : Crowd RegistryStep RegistryReply (Finished τ κ ν σ) Registry) : Prop where
  present : c.parties.length = team.length
  stands : ∀ i job script, team[i]? = some job → c.parties[i]? = some script →
    Stands past c.shared.sources i job script
  members : ∀ i n, Took past i n → i < team.length
  /-- Numbers are taken upwards. -/
  below : ∀ i n, Took past i n → n < c.shared.nextRun
  distinct : (numbers past).Nodup
  apart : ∀ i j n m, Took past i n → Took past j m → (i = j ↔ n = m)
  onwards : first.nextRun ≤ c.shared.nextRun
  /-- Nothing is registered under numbers that nobody has taken. -/
  vacant : ∀ n, first.nextRun ≤ n → n ∉ numbers past →
    c.shared.sources.entries (snippetFile n) = []
  /-- Apart from the files of runs, the registry is the one they have found. -/
  untouched : c.shared.sources.filter (·.1 ∉ (numbers past).map snippetFile) = first.sources
  minded : ∀ d ∈ past, d.step = .takeNumber ∨
    ∃ job n, team[d.party]? = some job ∧ Took past d.party n ∧ job.Minds n d

namespace Tended

/-- Nothing has happened yet. -/
lemma start (hclean : ∀ n, first.nextRun ≤ n → first.sources.entries (snippetFile n) = []) :
    Tended first [] ([] : List (Job τ κ π ν σ)) ⟨first, []⟩ where
  present := rfl
  stands i job script h := by simp at h
  members i n h := by simp [Took] at h
  below i n h := by simp [Took] at h
  distinct := List.nodup_nil
  apart i j n m h := by simp [Took] at h
  onwards := le_rfl
  vacant n hn _ := hclean n hn
  untouched := by simp [numbers]
  minded d h := by simp at h

/-- After a step of one run, the others stand where they stood. -/
lemma stands_set (h : Tended first past team c) (hjob : team[i]? = some job)
    (hturn : i < c.parties.length) (hparty : d.party = i)
    (hsame : ∀ j m, j ≠ i → Took past j m →
      sources.entries (snippetFile m) = c.shared.sources.entries (snippetFile m))
    (hstands : Stands (past ++ [d]) sources i job script) :
    ∀ j job' script', team[j]? = some job' → (c.parties.set i script)[j]? = some script' →
      Stands (past ++ [d]) sources j job' script' := by
  intro j job' script' hjob' hscript
  by_cases hj : j = i
  · subst hj
    rw [List.getElem?_set_self hturn] at hscript
    cases hscript
    cases Option.some.inj (hjob.symm.trans hjob')
    exact hstands
  · rw [List.getElem?_set_ne (Ne.symm hj)] at hscript
    exact (h.stands j job' script' hjob' hscript).aside (hparty ▸ Ne.symm hj) fun m =>
      hsame j m hj

/-- What has been minded stays so. -/
lemma minded_concat (h : Tended first past team c)
    (hd : d.step = .takeNumber ∨
      ∃ job n, team[d.party]? = some job ∧ Took (past ++ [d]) d.party n ∧ job.Minds n d) :
    ∀ e ∈ past ++ [d], e.step = .takeNumber ∨
      ∃ job n, team[e.party]? = some job ∧ Took (past ++ [d]) e.party n ∧ job.Minds n e := by
  intro e he
  rcases List.mem_append.1 he with he | he
  · exact (h.minded e he).imp_right fun ⟨job, n, hjob, htook, hminds⟩ =>
      ⟨job, n, hjob, htook.concat, hminds⟩
  · cases List.mem_singleton.1 he
    exact hd

/-- A run takes the next number. -/
lemma takes (h : Tended first past team c) (hjob : team[i]? = some job)
    (hturn : i < c.parties.length) (hfresh : ∀ n, ¬ Took past i n)
    (hd : d = ⟨i, .takeNumber, c.shared⟩) :
    Tended first (past ++ [d]) team
      ⟨d.after, c.parties.set i (job.afterNumber c.shared.nextRun)⟩ := by
  subst hd
  have htook : Took (past ++ [⟨i, .takeNumber, c.shared⟩]) i c.shared.nextRun :=
    took_concat.2 (.inr ⟨rfl, rfl⟩)
  have hnew : c.shared.nextRun ∉ numbers past := fun hmem =>
    have ⟨j, hj⟩ := mem_numbers.1 hmem
    (h.below j _ hj).false
  have hvacant := h.vacant _ h.onwards hnew
  have hcases : ∀ {j m}, Took (past ++ [⟨i, .takeNumber, c.shared⟩]) j m →
      Took past j m ∨ j = i ∧ m = c.shared.nextRun := fun hj =>
    (took_concat.1 hj).imp_right fun ⟨hparty, hnumber⟩ =>
      ⟨hparty.symm, (Option.some.inj hnumber).symm⟩
  constructor
  case present => simpa using h.present
  case stands =>
    -- nothing is registered for the new number, so the run begins as one that has registered none
    have hrunning := Stands.running htook (job.afterNumber_obeys _) hvacant
      fun text ht => nomatch ht
    exact h.stands_set hjob hturn rfl (fun _ _ _ _ => rfl) hrunning
  case members =>
    intro j m hj
    rcases hcases hj with hj | ⟨rfl, -⟩
    · exact h.members j m hj
    · exact h.present ▸ hturn
  case below =>
    intro j m hj
    rcases hcases hj with hj | ⟨-, rfl⟩
    · exact Nat.lt_succ_of_lt (h.below j m hj)
    · exact Nat.lt_succ_self _
  case distinct =>
    rw [numbers_concat]
    exact h.distinct.append (List.nodup_singleton _) (List.disjoint_singleton.2 hnew)
  case apart =>
    intro j k n m hj hk
    rcases hcases hj with hj' | ⟨hji, hn⟩ <;> rcases hcases hk with hk' | ⟨hki, hm⟩
    · exact h.apart j k n m hj' hk'
    · exact iff_of_false (fun heq => hfresh n (hki ▸ heq ▸ hj')) (hm ▸ (h.below j n hj').ne)
    · exact iff_of_false (fun heq => hfresh m (hji ▸ heq ▸ hk')) (hn ▸ (h.below k m hk').ne')
    · exact iff_of_true (hji.trans hki.symm) (hn.trans hm.symm)
  case onwards => exact h.onwards.trans (Nat.le_succ _)
  case vacant =>
    intro n hn hnone
    rw [numbers_concat] at hnone
    exact h.vacant n hn fun hmem => hnone (List.mem_append_left _ hmem)
  case untouched =>
    -- one more file is left out, but nothing is registered for it
    refine Eq.trans (List.filter_congr fun entry hentry => ?_) h.untouched
    have hne : entry.1 ≠ snippetFile c.shared.nextRun :=
      SourceLines.entries_eq_nil.1 hvacant entry hentry
    simp [numbers_concat, Deed.number?, hne]
  case minded => exact h.minded_concat (.inl rfl)

/-- A run that has a number keeps to its own source. -/
lemma works (h : Tended first past team c) (hjob : team[i]? = some job)
    (hturn : i < c.parties.length) (htook : Took past i n) (hparty : d.party = i)
    (hbefore : d.before = c.shared) (hminds : job.Minds n d)
    (hstands : Stands (past ++ [d]) d.after.sources i job script) :
    Tended first (past ++ [d]) team ⟨d.after, c.parties.set i script⟩ := by
  have hnumbers : numbers (past ++ [d]) = numbers past := by
    rw [numbers_concat, hminds.number?, Option.toList_none, List.append_nil]
  have hsame : ∀ {j m}, Took (past ++ [d]) j m ↔ Took past j m := by
    intro j m
    rw [took_concat, hminds.number?]
    simp
  have hnext : d.after.nextRun = c.shared.nextRun := hbefore ▸ hminds.nextRun
  constructor
  case present => simpa using h.present
  case stands =>
    refine h.stands_set hjob hturn hparty (fun j m hj hm => ?_) hstands
    rw [← hbefore]
    -- a run with the same file would have the same number, and so be the same run
    refine hminds.entries fun hfile => hj ?_
    exact (h.apart j i m n hm htook).2 (snippetFile_injective hfile)
  case members => exact fun j m hj => h.members j m (hsame.1 hj)
  case below => exact fun j m hj => hnext ▸ h.below j m (hsame.1 hj)
  case distinct => exact hnumbers ▸ h.distinct
  case apart => exact fun j k n m hj hk => h.apart j k n m (hsame.1 hj) (hsame.1 hk)
  case onwards => exact hnext ▸ h.onwards
  case vacant =>
    intro m hm hnone
    rw [hnumbers] at hnone
    have hne : snippetFile m ≠ snippetFile n := fun hfile =>
      hnone (snippetFile_injective hfile ▸ mem_numbers.2 ⟨i, htook⟩)
    rw [hminds.entries hne, hbefore]
    exact h.vacant m hm hnone
  case untouched =>
    rw [hnumbers, hminds.filter (List.mem_map_of_mem (mem_numbers.2 ⟨i, htook⟩)), hbefore]
    exact h.untouched
  case minded =>
    exact h.minded_concat (.inr ⟨job, n, hparty ▸ hjob, hparty ▸ htook.concat, hminds⟩)

/-- Any step of any run. -/
lemma steps {step : RegistryStep} {next : RegistryReply → Registered (Finished τ κ ν σ)}
    (h : Tended first past team c) (hturn : c.parties[i]? = some (.act step next)) :
    Tended first (past ++ [⟨i, step, c.shared⟩]) team
      ⟨(step.perform c.shared).2, c.parties.set i (next (step.perform c.shared).1)⟩ := by
  -- where the run stands leaves it one kind of step: the first one, or one that it may take
  obtain ⟨hi, -⟩ := List.getElem?_eq_some_iff.1 hturn
  obtain ⟨job, hjob⟩ : ∃ job, team[i]? = some job :=
    ⟨_, List.getElem?_eq_getElem (h.present ▸ hi)⟩
  have hstands := h.stands i job _ hjob hturn
  generalize hscript : Script.act step next = script at hstands
  cases hstands with
  | waiting fresh =>
    obtain ⟨body, hjobscript, hbody⟩ := job.script_eq
    cases hscript.trans hjobscript
    have htakes := h.takes hjob hi fresh rfl
    rw [← hbody] at htakes
    exact htakes
  | @running n shown told _ took obeys entries wrote =>
    subst hscript
    have hminds : job.Minds n ⟨i, step, c.shared⟩ := Job.Obeys.minds obeys entries
    exact h.works hjob hi took rfl rfl hminds (.acts took obeys entries wrote)
  | ended => cases hscript

/-- Another run joins. -/
lemma joins (h : Tended first past team c) (job : Job τ κ π ν σ) :
    Tended first past (team ++ [job]) { c with parties := c.parties ++ [job.script] } where
  present := by simp [h.present]
  stands i job' script hjob hscript := by
    -- the last one is new: nobody beyond the team has taken a number
    rcases lt_trichotomy i team.length with hi | rfl | hi
    · rw [List.getElem?_append_left hi] at hjob
      rw [List.getElem?_append_left (h.present ▸ hi)] at hscript
      exact h.stands i job' script hjob hscript
    · rw [List.getElem?_concat_length] at hjob
      rw [← h.present, List.getElem?_concat_length] at hscript
      cases hjob
      cases hscript
      exact .waiting fun n hn => (h.members _ n hn).false
    · rw [List.getElem?_eq_none (by simpa using hi)] at hjob
      cases hjob
  members i n hn := by
    rw [List.length_append]
    exact Nat.lt_add_right _ (h.members i n hn)
  below := h.below
  distinct := h.distinct
  apart := h.apart
  onwards := h.onwards
  vacant := h.vacant
  untouched := h.untouched
  minded d hd := (h.minded d hd).imp_right fun ⟨job', n, hjob, htook, hminds⟩ =>
    ⟨job', n, (List.getElem?_append_left (List.getElem?_eq_some_iff.1 hjob).1).trans hjob, htook,
      hminds⟩

/-- Runs fit together in every interleaving. -/
lemma leads {log : List (Move (Job τ κ π ν σ) RegistryStep)}
    (h : runs.Leads ⟨first, []⟩ log c)
    (hclean : ∀ n, first.nextRun ≤ n → first.sources.entries (snippetFile n) = []) :
    (chronicle first log).registry = c.shared ∧
      Tended first (chronicle first log).deeds (joiners log) c := by
  induction h with
  | start => exact ⟨rfl, start hclean⟩
  | move _ takes ih =>
    obtain ⟨hregistry, htended⟩ := ih
    rw [chronicle_concat]
    cases takes with
    | joined job =>
      rw [joiners_joined]
      exact ⟨hregistry, htended.joins job⟩
    | stepped turn may =>
      rw [joiners_stepped, Chronicle.note, hregistry]
      exact ⟨rfl, htended.steps turn⟩
    | watched =>
      rw [joiners_watched]
      exact ⟨hregistry, htended⟩

/-- A run that has ended has left nothing behind. -/
lemma ended (h : Tended first past team c) {finished : Finished τ κ ν σ}
    (hjob : team[i]? = some job) (hend : c.parties[i]? = some (.stop finished)) :
    job.Tells (Wrote past i) finished.outcome ∧
      ∀ n, Took past i n → c.shared.sources.entries (snippetFile n) = [] := by
  have hstands := h.stands i job _ hjob hend
  generalize hscript : Script.stop finished = script at hstands
  cases hstands with
  | waiting =>
    obtain ⟨next, hjobscript, -⟩ := job.script_eq
    cases hscript.trans hjobscript
  | running took obeys =>
    subst hscript
    cases obeys
  | ended took tells gone =>
    cases hscript
    exact ⟨tells, fun n hn => (h.apart _ _ _ _ took hn).1 rfl ▸ gone⟩

end Tended

/-- A language that refuses every source. -/
def refusing : Language Nat Unit Unit Unit Unit where
  compile file _ := .error
    { headline := .plain "SyntaxError" (some "no"), frames := [⟨file, "<module>", ⟨1, 0, 1, 1⟩⟩] }
  body _ _ _ := .stop (.done, ())
  callback _ _ := .stop (.done, ())
  clear _ _ := ()

/-- A run of a source that is refused, perhaps after a preparation. -/
def refusal (source : String) (prepare : Option Preparation) : Job Nat Unit Unit Unit Unit where
  language := refusing
  deadline := { moment := 5, message := "late" }
  source := source
  context := ⟨(), ⟨{ cap := .whole 100 }, { now := 0 }⟩, [], false⟩
  objects := ()
  prepare := prepare

end SnippetRunner
