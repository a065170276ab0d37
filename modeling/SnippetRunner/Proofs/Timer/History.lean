import Mathlib.Tactic.Lemma
import SnippetRunner.Timer.Routine

/-!
# Histories of an agenda

A history is everything that happens to an agenda while a caller performs operations on it, with
all that the callbacks do that are started meanwhile, in drains within drains. It is a list of
*marks*, each with the agenda before and after it.

* `Behaviour.session` runs a caller's script and keeps the history; `session_result` says that it
  is the run itself, with nothing changed but the list kept beside it.
* `Happens` says what each mark may do to the agenda, and `session_leads` that a history is a
  chain of such steps. After this nothing about scripts, nesting or turns is needed: an invariant
  is shown for one step, and `Leads.induction` carries it through every history.
-/

namespace SnippetRunner.Timer

/-- Something that happens to an agenda. -/
inductive Deed (τ κ ε : Type) where
  /-- An operation other than a drain was performed and answered. -/
  | asked (op : Op τ κ) (reply : Reply ε)
  /-- A drain began. -/
  | began (deadline : Option τ)
  /-- The drain loop waited for the next event. -/
  | waited
  /-- A callback was started for an event. -/
  | started (event : Event τ κ) (callback : κ)
  /-- An event was taken off without a callback to start. -/
  | dropped (event : Event τ κ)

/-- One mark of a history: what happened, with the agenda before and after it. -/
structure Mark (τ κ ε : Type) where
  before : Agenda τ κ
  deed : Deed τ κ ε
  after : Agenda τ κ

/-- A result with the history that led to it. -/
structure Logged (τ κ ε α : Type) where
  log : List (Mark τ κ ε)
  result : α

variable {τ κ ε μ α : Type}

/-- A history that begins with some marks and goes on with another one. -/
def Logged.after (marks : List (Mark τ κ ε)) (r : Logged τ κ ε α) : Logged τ κ ε α :=
  ⟨marks ++ r.log, r.result⟩

/-- Every agenda of a history: the first one, and the one that each mark left. Caller and callbacks
are in control at no other ones. -/
def Logged.points (start : Agenda τ κ) (r : Logged τ κ ε α) : List (Agenda τ κ) :=
  start :: r.log.map (·.after)

/-- The agenda that a history leaves. -/
def reached (start : Agenda τ κ) : List (Mark τ κ ε) → Agenda τ κ
  | [] => start
  | mark :: rest => reached mark.after rest

/-! ## Runs with their histories -/

section Runs

variable [Add τ] [Sub τ] [LT τ] [DecidableLT τ] [Zero τ]

/-- Performs one operation and keeps what happens; a drain begins, and does the rest itself. -/
def Op.performLogged (drain : Option τ → Agenda τ κ → μ → Logged τ κ ε (Ending ε × Agenda τ κ × μ))
    (op : Op τ κ) (s : Agenda τ κ × μ) : Logged τ κ ε (Reply ε × Agenda τ κ × μ) :=
  let result := op.perform (fun deadline a m => (drain deadline a m).result) s
  match op with
  | .drain deadline =>
    ⟨⟨s.1, .began deadline, { s.1 with deadline }⟩ :: (drain deadline s.1 s.2).log, result⟩
  | op => ⟨[⟨s.1, .asked op result.1, result.2.1⟩], result⟩

/-- Runs a script and keeps what happens. -/
def runLogged {σ : Type} (perform : Op τ κ → σ → Logged τ κ ε (Reply ε × σ)) :
    Script (Op τ κ) (Reply ε) α → σ → Logged τ κ ε (α × σ)
  | .stop result, s => ⟨[], result, s⟩
  | .act op next, s =>
    (runLogged perform (next (perform op s).result.1) (perform op s).result.2).after
      (perform op s).log

/-- Runs waiting callbacks as `drainTurns` does and keeps what happens. -/
def drainTurnsLogged
    (invoke : κ → Agenda τ κ → μ → Logged τ κ ε (Ending ε × Agenda τ κ × μ)) :
    Nat → Agenda τ κ → μ → Logged τ κ ε (Ending ε × Agenda τ κ × μ)
  | 0, a, m => ⟨[], .endless, a, m⟩
  | turns + 1, a, m =>
    match a.turn with
    | .idle => ⟨[], .done, a, m⟩
    | .late => ⟨[], .late, a, m⟩
    | .wait moment =>
      (drainTurnsLogged invoke turns { a with now := moment } m).after
        [⟨a, .waited, { a with now := moment }⟩]
    | .fire event =>
      match a.start event with
      | (none, b) =>
        if b.isLate then ⟨[⟨a, .dropped event, b⟩], .late, b, m⟩
        else (drainTurnsLogged invoke turns b m).after [⟨a, .dropped event, b⟩]
      | (some callback, b) =>
        let ran := invoke callback b m
        match ran.result with
        | (.done, c, m) =>
          if c.isLate then ⟨⟨a, .started event callback, b⟩ :: ran.log, .late, c, m⟩
          else (drainTurnsLogged invoke turns c m).after
            (⟨a, .started event callback, b⟩ :: ran.log)
        | ended => ⟨⟨a, .started event callback, b⟩ :: ran.log, ended⟩

/-- Sets the deadline, runs waiting callbacks and keeps what happens. -/
def drainLogged (invoke : κ → Agenda τ κ → μ → Logged τ κ ε (Ending ε × Agenda τ κ × μ))
    (turns : Nat) (deadline : Option τ) (a : Agenda τ κ) (m : μ) :
    Logged τ κ ε (Ending ε × Agenda τ κ × μ) :=
  drainTurnsLogged invoke turns { a with deadline } m

/-- Runs a callback by its behaviour and keeps what happens. -/
def Behaviour.invokeLogged (b : Behaviour τ κ ε μ) :
    Nat → κ → Agenda τ κ → μ → Logged τ κ ε (Ending ε × Agenda τ κ × μ)
  | 0, _, a, m => ⟨[], .endless, a, m⟩
  | turns + 1, callback, a, m =>
    let nested := fun deadline a m => drainLogged (b.invokeLogged turns) turns deadline a m
    let m := b.note callback a m
    runLogged (Op.performLogged nested) (b.script callback a m) (a, m)

/-- A caller's script with its whole history. -/
def Behaviour.session (b : Behaviour τ κ ε μ) (turns : Nat)
    (caller : Script (Op τ κ) (Reply ε) α) (a : Agenda τ κ) (m : μ) :
    Logged τ κ ε (α × Agenda τ κ × μ) :=
  runLogged (Op.performLogged fun deadline a m => drainLogged (b.invokeLogged turns) turns deadline a m)
    caller (a, m)

/-! ## Keeping the history changes nothing -/

omit [Sub τ] in
lemma performLogged_result
    (drain : Option τ → Agenda τ κ → μ → Logged τ κ ε (Ending ε × Agenda τ κ × μ))
    (op : Op τ κ) (s : Agenda τ κ × μ) :
    (op.performLogged drain s).result
      = op.perform (fun deadline a m => (drain deadline a m).result) s := by
  cases op <;> rfl

omit [Add τ] [Sub τ] [LT τ] [DecidableLT τ] [Zero τ] in
lemma runLogged_result {σ : Type} (performs : Op τ κ → σ → Logged τ κ ε (Reply ε × σ))
    (script : Script (Op τ κ) (Reply ε) α) : ∀ s : σ,
    (runLogged performs script s).result = script.run (fun op s => (performs op s).result) s := by
  induction script with
  | stop result => exact fun s => rfl
  | act op next ih =>
    intro s
    rw [runLogged, Script.run]
    exact ih _ _

lemma drainTurnsLogged_result
    (invoke : κ → Agenda τ κ → μ → Logged τ κ ε (Ending ε × Agenda τ κ × μ)) (turns : Nat) :
    ∀ (a : Agenda τ κ) (m : μ), (drainTurnsLogged invoke turns a m).result
      = drainTurns (fun callback a m => (invoke callback a m).result) turns a m := by
  induction turns with
  | zero => exact fun a m => rfl
  | succ turns ih =>
    intro a m
    rw [drainTurnsLogged, drainTurns]
    cases hturn : a.turn with
    | idle => rfl
    | late => rfl
    | wait moment => exact ih _ _
    | fire event =>
      rcases hstart : a.start event with ⟨_ | callback, b⟩
      · simp only [hstart]
        by_cases hlate : b.isLate = true
        · simp only [hlate, if_true]
        · simp only [hlate, Bool.false_eq_true, if_false]
          exact ih _ _
      · simp only [hstart]
        rcases (invoke callback b m).result with ⟨_ | _ | error | _, c, m'⟩ <;> simp only
        by_cases hlate : c.isLate = true
        · simp only [hlate, if_true]
        · simp only [hlate, Bool.false_eq_true, if_false]
          exact ih _ _

lemma invokeLogged_result (b : Behaviour τ κ ε μ) (turns : Nat) :
    ∀ (callback : κ) (a : Agenda τ κ) (m : μ),
      (b.invokeLogged turns callback a m).result = b.invoke turns callback a m := by
  induction turns with
  | zero => exact fun callback a m => rfl
  | succ turns ih =>
    intro callback a m
    rw [Behaviour.invokeLogged, Behaviour.invoke, runLogged_result]
    have hnested : ∀ deadline (a : Agenda τ κ) (m : μ),
        (drainLogged (b.invokeLogged turns) turns deadline a m).result
          = drain (b.invoke turns) turns deadline a m := by
      intro deadline a m
      rw [drainLogged, drainTurnsLogged_result, drain]
      simp only [ih]
    simp only [performLogged_result, hnested]

/-- A session is the caller's run, with its history kept beside it. -/
theorem session_result (b : Behaviour τ κ ε μ) (turns : Nat)
    (caller : Script (Op τ κ) (Reply ε) α) (a : Agenda τ κ) (m : μ) :
    (b.session turns caller a m).result = caller.run (b.perform turns) (a, m) := by
  rw [Behaviour.session, runLogged_result]
  simp only [performLogged_result, drainLogged, drainTurnsLogged_result, invokeLogged_result]
  rfl

end Runs

/-! ## What may happen -/

section Steps

variable [Add τ] [Sub τ] [LT τ] [DecidableLT τ] [Zero τ]

/-- What a deed does to an agenda. The operations do not look at the memory of the callbacks, so
any memory serves to say what they do. -/
inductive Happens : Agenda τ κ → Deed τ κ ε → Agenda τ κ → Prop where
  | asked {a b : Agenda τ κ} {op : Op τ κ} {reply : Reply ε}
      (plain : ∀ deadline, op ≠ .drain deadline)
      (performed : op.perform (fun _ a m => (.done, a, m)) (a, ()) = (reply, b, ())) :
      Happens a (.asked op reply) b
  | began {a : Agenda τ κ} (deadline : Option τ) :
      Happens a (.began deadline) { a with deadline }
  | waited {a : Agenda τ κ} {moment : τ} (turn : a.turn = .wait moment) :
      Happens a .waited { a with now := moment }
  | started {a b : Agenda τ κ} {event : Event τ κ} {callback : κ}
      (turn : a.turn = .fire event) (start : a.start event = (some callback, b)) :
      Happens a (.started event callback) b
  | dropped {a b : Agenda τ κ} {event : Event τ κ}
      (turn : a.turn = .fire event) (start : a.start event = (none, b)) :
      Happens a (.dropped event) b

/-- A history that leads from one agenda to another. -/
def Leads : Agenda τ κ → List (Mark τ κ ε) → Agenda τ κ → Prop
  | a, [], b => a = b
  | a, mark :: rest, b =>
    mark.before = a ∧ Happens mark.before mark.deed mark.after ∧ Leads mark.after rest b

namespace Leads

variable {a b c : Agenda τ κ} {log before after : List (Mark τ κ ε)} {mark : Mark τ κ ε}

lemma append_iff : ∀ {a : Agenda τ κ} {before : List (Mark τ κ ε)},
    Leads a (before ++ after) c ↔ ∃ b, Leads a before b ∧ Leads b after c
  | a, [] => ⟨fun h => ⟨a, rfl, h⟩, fun ⟨_, h, h'⟩ => h ▸ h'⟩
  | a, mark :: rest => by
    rw [List.cons_append]
    constructor
    · rintro ⟨hbefore, hhappens, hrest⟩
      obtain ⟨b, hrest, hafter⟩ := append_iff.mp hrest
      exact ⟨b, ⟨hbefore, hhappens, hrest⟩, hafter⟩
    · rintro ⟨b, ⟨hbefore, hhappens, hrest⟩, hafter⟩
      exact ⟨hbefore, hhappens, append_iff.mpr ⟨b, hrest, hafter⟩⟩

lemma append (h : Leads a before b) (h' : Leads b after c) : Leads a (before ++ after) c :=
  append_iff.mpr ⟨b, h, h'⟩

lemma single (h : Happens a mark.deed mark.after) (hbefore : mark.before = a) :
    Leads a [mark] mark.after :=
  ⟨hbefore, hbefore ▸ h, rfl⟩

lemma reached_eq : ∀ {a : Agenda τ κ} {log : List (Mark τ κ ε)}, Leads a log b → reached a log = b
  | _, [], h => h
  | _, mark :: rest, ⟨_, _, hrest⟩ => show reached mark.after rest = b from reached_eq hrest

/-- What holds at the start and is kept by each step holds at every point of a history. The
property may speak of the history so far. -/
theorem induction {P : List (Mark τ κ ε) → Agenda τ κ → Prop} (start : P [] a)
    (step : ∀ log (mark : Mark τ κ ε), P log mark.before →
      Happens mark.before mark.deed mark.after → P (log ++ [mark]) mark.after)
    (h : Leads a log b) : P log b := by
  -- the history so far grows along the list, so the steps are taken from its front
  have go : ∀ (rest past : List (Mark τ κ ε)) (a : Agenda τ κ),
      P past a → Leads a rest b → P (past ++ rest) b := by
    intro rest
    induction rest with
    | nil =>
      rintro past a hpast rfl
      rwa [List.append_nil]
    | cons mark rest ih =>
      rintro past a hpast ⟨rfl, hhappens, hrest⟩
      have hnext := ih (past ++ [mark]) mark.after (step past mark hpast hhappens) hrest
      rwa [List.append_assoc, List.singleton_append] at hnext
  exact go log [] a start h

/-- What holds at the start and is kept by each step holds before and after every mark. -/
lemma always {P : Agenda τ κ → Prop} (start : P a)
    (step : ∀ mark : Mark τ κ ε, P mark.before → Happens mark.before mark.deed mark.after →
      P mark.after)
    (h : Leads a log b) :
    P b ∧ ∀ mark ∈ log, P mark.before ∧ Happens mark.before mark.deed mark.after := by
  refine h.induction (P := fun log a =>
    P a ∧ ∀ mark ∈ log, P mark.before ∧ Happens mark.before mark.deed mark.after)
    ⟨start, by simp⟩ ?_
  rintro log mark ⟨hbefore, hlog⟩ hhappens
  refine ⟨step mark hbefore hhappens, fun other hother => ?_⟩
  rcases List.mem_append.mp hother with hmem | hlast
  · exact hlog other hmem
  · rw [List.mem_singleton] at hlast
    exact hlast ▸ ⟨hbefore, hhappens⟩

end Leads

/-! ## Every history is a chain of steps -/

lemma performLogged_leads
    {drain : Option τ → Agenda τ κ → μ → Logged τ κ ε (Ending ε × Agenda τ κ × μ)}
    (hdrain : ∀ deadline (a : Agenda τ κ) (m : μ),
      Leads { a with deadline } (drain deadline a m).log (drain deadline a m).result.2.1)
    (op : Op τ κ) (s : Agenda τ κ × μ) :
    Leads s.1 (op.performLogged drain s).log (op.performLogged drain s).result.2.1 := by
  obtain ⟨a, m⟩ := s
  cases op with
  | drain deadline =>
    refine ⟨rfl, Happens.began deadline, ?_⟩
    have hleads := hdrain deadline a m
    rw [performLogged_result, Op.perform]
    rcases hresult : (drain deadline a m).result with ⟨_ | _ | error | _, b, m'⟩ <;>
      rw [hresult] at hleads <;> exact hleads
  | callLater delay target => exact Leads.single (.asked (by simp) rfl) rfl
  | callEvery period target => exact Leads.single (.asked (by simp) rfl) rfl
  | cancelCall key => exact Leads.single (.asked (by simp) rfl) rfl
  | cancelEvery key => exact Leads.single (.asked (by simp) rfl) rfl
  | close => exact Leads.single (.asked (by simp) rfl) rfl
  | advance span => exact Leads.single (.asked (by simp) rfl) rfl

lemma runLogged_leads
    {performs : Op τ κ → Agenda τ κ × μ → Logged τ κ ε (Reply ε × Agenda τ κ × μ)}
    (hperforms : ∀ op s, Leads s.1 (performs op s).log (performs op s).result.2.1)
    (script : Script (Op τ κ) (Reply ε) α) : ∀ s : Agenda τ κ × μ,
    Leads s.1 (runLogged performs script s).log (runLogged performs script s).result.2.1 := by
  induction script with
  | stop result => exact fun s => rfl
  | act op next ih => exact fun s => Leads.append (hperforms op s) (ih _ _)

lemma drainTurnsLogged_leads
    {invoke : κ → Agenda τ κ → μ → Logged τ κ ε (Ending ε × Agenda τ κ × μ)}
    (hinvoke : ∀ callback (a : Agenda τ κ) (m : μ),
      Leads a (invoke callback a m).log (invoke callback a m).result.2.1)
    (turns : Nat) : ∀ (a : Agenda τ κ) (m : μ),
      Leads a (drainTurnsLogged invoke turns a m).log
        (drainTurnsLogged invoke turns a m).result.2.1 := by
  induction turns with
  | zero => exact fun a m => rfl
  | succ turns ih =>
    intro a m
    rw [drainTurnsLogged]
    cases hturn : a.turn with
    | idle => rfl
    | late => rfl
    | wait moment => exact Leads.append (Leads.single (.waited hturn) rfl) (ih _ _)
    | fire event =>
      rcases hstart : a.start event with ⟨_ | callback, b⟩
      · simp only [hstart]
        have hfirst : Leads a [(⟨a, .dropped event, b⟩ : Mark τ κ ε)] b :=
          ⟨rfl, .dropped hturn hstart, rfl⟩
        by_cases hlate : b.isLate = true
        · simpa only [hlate, if_true] using hfirst
        · simp only [hlate, Bool.false_eq_true, if_false]
          exact hfirst.append (ih _ _)
      · simp only [hstart]
        have hcalled := hinvoke callback b m
        have hfirst : Leads a (⟨a, .started event callback, b⟩ :: (invoke callback b m).log)
            (invoke callback b m).result.2.1 :=
          ⟨rfl, .started hturn hstart, hcalled⟩
        rcases hran : (invoke callback b m).result with ⟨_ | _ | error | _, c, m'⟩ <;>
          simp only [hran] at hfirst ⊢
        · by_cases hlate : c.isLate = true
          · simpa only [hlate, if_true] using hfirst
          · simp only [hlate, Bool.false_eq_true, if_false]
            exact hfirst.append (ih _ _)
        · exact hfirst
        · exact hfirst
        · exact hfirst

lemma invokeLogged_leads (b : Behaviour τ κ ε μ) (turns : Nat) :
    ∀ (callback : κ) (a : Agenda τ κ) (m : μ),
      Leads a (b.invokeLogged turns callback a m).log
        (b.invokeLogged turns callback a m).result.2.1 := by
  induction turns with
  | zero => exact fun callback a m => rfl
  | succ turns ih =>
    intro callback a m
    exact runLogged_leads (performLogged_leads fun deadline a m =>
      drainTurnsLogged_leads ih turns { a with deadline } m) _ (a, b.note callback a m)

/-- The history of a session is a chain of steps, from the agenda it began with to the one it
ended with. -/
theorem session_leads (b : Behaviour τ κ ε μ) (turns : Nat)
    (caller : Script (Op τ κ) (Reply ε) α) (a : Agenda τ κ) (m : μ) :
    Leads a (b.session turns caller a m).log (b.session turns caller a m).result.2.1 :=
  runLogged_leads (performLogged_leads fun deadline a m =>
    drainTurnsLogged_leads (invokeLogged_leads b turns) turns { a with deadline } m) caller (a, m)

end Steps

end SnippetRunner.Timer
