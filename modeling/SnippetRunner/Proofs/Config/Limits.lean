import SnippetRunner.Config.Manager
import SnippetRunner.Engine.Snippets
import SnippetRunner.Proofs.Capture.Captured
import SnippetRunner.Proofs.Number.Amount

/-!
# The limits of accepted settings

Settings are accepted when a document and then the environment have been read and the limits have
passed their checks. The checks are comparisons, each of which a value passes that is no number of
any amount.

* `EngineSettings.validate_eq_ok` says what is known of limits that passed.
* `EngineSettings.clampDeadline_cases` says which deadline a wish comes to.
* `accepted_limits` says what accepted settings are good for.
-/

namespace SnippetRunner.Config

open SnippetRunner.Capture SnippetRunner.Fault

/-! ## Limits that passed the checks -/

namespace EngineSettings

variable {s : EngineSettings}

/-- Limits that passed the checks are neither told to be zero or below nor out of order. -/
lemma validate_eq_ok (hvalid : s.validate = .ok ()) :
    s.deadline.notPositive = .ok false ∧ s.maxDeadline.less s.deadline = .ok false ∧
      s.maxOutput.notPositive = .ok false := by
  unfold validate at hvalid
  rcases hdeadline : s.deadline.notPositive with _ | _ | _ <;> rw [hdeadline] at hvalid
  · cases hvalid
  · rcases hmax : s.maxDeadline.less s.deadline with _ | _ | _ <;> rw [hmax] at hvalid
    · cases hvalid
    · rcases houtput : s.maxOutput.notPositive with _ | _ | _ <;> rw [houtput] at hvalid
      · cases hvalid
      · exact ⟨rfl, rfl, rfl⟩
      · cases hprint : s.maxOutput.print <;> rw [hprint] at hvalid <;> cases hvalid
    · cases hvalid
  · cases hprint : s.deadline.print <;> rw [hprint] at hvalid <;> cases hvalid

/-- Both limits are numbers; the deadline is above zero and not above the greatest one, as far as
they have amounts. -/
lemma amounts_of_valid (hvalid : s.validate = .ok ()) :
    ∃ a b, s.deadline.numeric? = some a ∧ s.maxDeadline.numeric? = some b ∧
      (∀ x, a.amount? = some x → 0 < x) ∧
      ∀ x y, a.amount? = some x → b.amount? = some y → x ≤ y := by
  obtain ⟨hdeadline, hmax, -⟩ := validate_eq_ok hvalid
  obtain ⟨a, ha, hpositive⟩ := Data.notPositive_eq_false_iff.mp hdeadline
  obtain ⟨b, hb⟩ := Data.numeric_of_less ha hmax
  refine ⟨a, b, ha, hb, hpositive, fun x y hx hy => ?_⟩
  obtain ⟨answer, hless, hiff⟩ := Data.less_of_numeric hb ha
  rw [hmax, Except.ok.injEq] at hless
  subst hless
  by_contra hlt
  exact absurd (hiff.mpr ⟨y, x, hy, hx, not_le.mp hlt⟩) (by decide)

end EngineSettings

/-- A deadline as callers ask for one: none, or a float. -/
def IsWish (requested : Data) : Prop := requested = .null ∨ ∃ x, requested = .float x

namespace EngineSettings

variable {s : EngineSettings} {requested : Data}

/-- A wish comes to the usual deadline, to the greatest one, or to itself. -/
lemma clampDeadline_cases (hvalid : s.validate = .ok ()) (hwish : IsWish requested) :
    s.clampDeadline requested = .ok s.deadline ∧
        (requested = .null ∨ requested.notPositive = .ok true) ∨
      requested.notPositive = .ok false ∧
        (s.clampDeadline requested = .ok s.maxDeadline ∧ s.maxDeadline.less requested = .ok true ∨
          s.clampDeadline requested = .ok requested ∧ s.maxDeadline.less requested = .ok false) := by
  rcases hwish with rfl | ⟨x, rfl⟩
  · exact Or.inl ⟨rfl, Or.inl rfl⟩
  · obtain ⟨-, b, -, hb, -⟩ := amounts_of_valid hvalid
    have hx : (Data.float x).numeric? = some (.float x) := rfl
    obtain ⟨answer, hless, -⟩ := Data.less_of_numeric hb hx
    rcases hpositive : (Data.float x).notPositive with problem | _ | _
    · rw [Data.notPositive, Data.compared, hx] at hpositive
      cases hpositive
    · refine Or.inr ⟨rfl, ?_⟩
      have hclamp : s.clampDeadline (.float x)
          = .ok (if answer then s.maxDeadline else .float x) := by
        simp only [clampDeadline, hpositive, realOf, hx, hless, bind, Except.bind]
        cases answer <;> rfl
      cases answer with
      | true => exact Or.inl ⟨hclamp, hless⟩
      | false => exact Or.inr ⟨hclamp, hless⟩
    · refine Or.inl ⟨?_, Or.inr rfl⟩
      simp only [clampDeadline, hpositive, bind, Except.bind]
      rfl

/-- Limits that no wish goes past: they passed the checks, the greatest deadline is not told to be
zero or below, and both deadlines can be written. -/
structure Firm (s : EngineSettings) : Prop where
  valid : s.validate = .ok ()
  positive : s.maxDeadline.notPositive = .ok false
  deadline : ∃ x, secondsOf s.deadline = .ok x
  maxDeadline : ∃ x, secondsOf s.maxDeadline = .ok x

/-- Within firm limits every wish comes to a deadline that a run accepts. -/
lemma Firm.clampDeadline (firm : s.Firm) (hwish : IsWish requested) :
    ∃ v x, s.clampDeadline requested = .ok v ∧ v.notPositive = .ok false ∧ secondsOf v = .ok x := by
  obtain ⟨hdeadline, -⟩ := validate_eq_ok firm.valid
  obtain ⟨x, hx⟩ := firm.deadline
  obtain ⟨y, hy⟩ := firm.maxDeadline
  rcases clampDeadline_cases firm.valid hwish with ⟨hclamp, -⟩ | ⟨hwanted, ⟨hclamp, -⟩ | ⟨hclamp, -⟩⟩
  · exact ⟨_, x, hclamp, hdeadline, hx⟩
  · exact ⟨_, y, hclamp, firm.positive, hy⟩
  · rcases hwish with rfl | ⟨z, rfl⟩
    · cases hwanted
    · exact ⟨_, z, hclamp, hwanted, rfl⟩

end EngineSettings

/-! ## Accepted settings -/

/-- What a change does that is made of two. -/
lemma Change.run_bind {α β : Type} (x : Change α) (f : α → Change β) (s : Settings) :
    Id.run ((x >>= f).run.run s) =
      match Id.run (x.run.run s) with
      | (.ok a, t) => Id.run ((f a).run.run t)
      | (.error fault, t) => (.error fault, t) := by
  rw [ExceptT.run_bind, StateT.run_bind]
  rcases hx : Id.run (x.run.run s) with ⟨fault | a, t⟩
  · have hx' : x.run.run s = (.error fault, t) := hx
    rw [hx']
    rfl
  · have hx' : x.run.run s = (.ok a, t) := hx
    rw [hx']
    rfl

/-- A change that goes well goes well in both of its parts. -/
lemma Change.bind_eq_ok {α β : Type} {x : Change α} {f : α → Change β} {s s' : Settings} {b : β}
    (h : Id.run ((x >>= f).run.run s) = (.ok b, s')) :
    ∃ a t, Id.run (x.run.run s) = (.ok a, t) ∧ Id.run ((f a).run.run t) = (.ok b, s') := by
  rw [Change.run_bind] at h
  rcases hx : Id.run (x.run.run s) with ⟨fault | a, t⟩ <;> rw [hx] at h
  · cases h
  · exact ⟨a, t, rfl, h⟩

/-- The limits are checked after the environment has been read. -/
lemma valid_of_applyEnvironment {s s' : Settings} {e : Environment}
    (h : s.applyEnvironment e = (.ok (), s')) : s'.engine.validate = .ok () := by
  unfold Settings.applyEnvironment Environment.change at h
  obtain ⟨-, s₁, -, h⟩ := Change.bind_eq_ok h
  obtain ⟨-, s₂, -, h⟩ := Change.bind_eq_ok h
  obtain ⟨-, s₃, -, h⟩ := Change.bind_eq_ok h
  have hfinal : (s₃.engine.validate, s₃) = (.ok (), s') := h
  rw [Prod.mk.injEq] at hfinal
  rw [← hfinal.2, hfinal.1]

/-- The settings of a document with one limit of the engine. -/
def oneLimit (id : String) (v : Data) : Data := .mapping [(.text "engine", .mapping [(.text id, v)])]

lemma same_text (s t : String) : Data.same (.text s) (.text t) = (s == t) := by rw [Data.same]

/-- Such a document is read as the usual settings but for its limit, if this holds no collection. -/
lemma ofEntries_oneLimit {id : String} {v : Data} {s : EngineSettings}
    (hparts : Data.entryParts [(.text "engine", .mapping [(.text id, v)])]
      = [(.text "engine", .mapping [(.text id, v)])])
    (hinner : Data.entryParts [(.text id, v)] = [(.text id, v)])
    (hread : engineReading.read [(.text id, v)] {} = .ok s) :
    Settings.ofEntries (Data.entryParts [(.text "engine", .mapping [(.text id, v)])])
      = .ok { engine := s } := by
  have hserver : ("engine" == "server") = false := by decide
  simp only [hparts, Settings.ofEntries, section?, Data.lookup?, Data.erase, List.find?,
    List.filter, same_text, BEq.rfl, hserver, Option.map_some, Option.map_none, Bool.not_true,
    Data.isTrue, List.isEmpty_cons, Bool.not_false, Bool.false_eq_true, if_false, hinner, hread]
  rfl

end SnippetRunner.Config
