import Mathlib.Algebra.Order.Group.Defs
import Mathlib.Algebra.Order.Ring.Int
import Mathlib.Algebra.Order.Monoid.Unbundled.Basic
import Mathlib.Data.List.Nodup
import Mathlib.Tactic.Lemma
import SnippetRunner.Timer.Agenda

/-!
# Timelines

What the clock of an agenda is assumed to satisfy, and what follows for the order of events.

An agenda compares times, adds time spans to its clock and subtracts the clock from a due time.
`Timeline` lists the facts about `<`, `+` and `-` that the order of callbacks rests on. They are
weak on purpose: sums may be rounded, so that floating-point numbers have them too, and values
that are no times (a NaN) may be around, as long as no time span is one.

The main statements are `earliest?_before`, which says that the drain loop takes the least event
of the queue, and the laws of `before` that make it a strict order on events.
-/

namespace SnippetRunner.Timer

/-- A type of times: `<` orders the values that are times, clock readings grow with time spans,
and the span up to a later time is not negative. -/
class Timeline (τ : Type) [Add τ] [Sub τ] [LT τ] [Zero τ] where
  /-- Which values are times. -/
  IsTime : τ → Prop
  not_lt_of_lt {a b : τ} : a < b → ¬ b < a
  not_lt_trans {a b c : τ} : IsTime b → ¬ a < b → ¬ b < c → ¬ a < c
  isTime_zero : IsTime 0
  isTime_add {a d : τ} : IsTime a → IsTime d → ¬ d < 0 → IsTime (a + d)
  not_add_lt {a d : τ} : IsTime a → IsTime d → ¬ d < 0 → ¬ a + d < a
  isTime_sub {a b : τ} : IsTime a → IsTime b → a < b → IsTime (b - a)
  not_sub_lt_zero {a b : τ} : IsTime a → IsTime b → a < b → ¬ b - a < 0
  lt_of_lt_add_zero {a d : τ} : d < a + 0 → d < a

/-- Exact numbers are times: all values of an ordered group are. -/
instance {τ : Type} [AddCommGroup τ] [LinearOrder τ] [IsOrderedAddMonoid τ] : Timeline τ where
  IsTime _ := True
  not_lt_of_lt h := h.not_gt
  not_lt_trans _ hab hbc := not_lt.mpr (le_trans (not_lt.mp hbc) (not_lt.mp hab))
  isTime_zero := trivial
  isTime_add _ _ _ := trivial
  not_add_lt _ _ hd := not_lt.mpr (le_add_of_nonneg_right (not_lt.mp hd))
  isTime_sub _ _ _ := trivial
  not_sub_lt_zero _ _ h := not_lt.mpr (sub_nonneg.mpr h.le)
  lt_of_lt_add_zero h := by rwa [add_zero] at h

/-- A timeline on which waiting comes to an end. One wait may fall short of its due time where the
sums are rounded, but each one leaves less to wait for. -/
class Arriving (τ : Type) [Add τ] [Sub τ] [LT τ] [Zero τ] extends Timeline τ where
  /-- How many waits there can be from one time to another. -/
  waits : τ → τ → Nat
  waits_lt {now due : τ} : IsTime now → IsTime due → now < due →
    waits (now + (due - now)) due < waits now due

/-- On exact numbers, one wait is enough. -/
instance {τ : Type} [AddCommGroup τ] [LinearOrder τ] [IsOrderedAddMonoid τ] : Arriving τ where
  waits now due := if now < due then 1 else 0
  waits_lt _ _ h := by simp [h]

namespace Agenda

variable {τ κ : Type} [LT τ] [DecidableLT τ] {e f g : Event τ κ}

/-! ## The order of events -/

/-- An event comes before another one that is due later, or not earlier and scheduled later. -/
lemma before_iff :
    before e f = true ↔ e.due < f.due ∨ ¬ f.due < e.due ∧ e.order < f.order := by
  unfold before
  by_cases hlt : e.due < f.due
  · simp [hlt]
  · by_cases hgt : f.due < e.due
    · simp [hlt, hgt]
    · simp [hlt, hgt]

lemma not_before_iff :
    before e f = false ↔ ¬ e.due < f.due ∧ (f.due < e.due ∨ f.order ≤ e.order) := by
  rw [← Bool.not_eq_true, before_iff, not_or, not_and_or, not_not, not_lt]

/-- Of two events that were not scheduled at once, one comes before the other. -/
lemma before_of_not_before (h : before e f = false) (hne : e.order ≠ f.order) :
    before f e = true := by
  obtain ⟨hlt, hgt | hle⟩ := not_before_iff.mp h
  · exact before_iff.mpr (Or.inl hgt)
  · exact before_iff.mpr (Or.inr ⟨hlt, lt_of_le_of_ne hle (Ne.symm hne)⟩)

variable [Add τ] [Sub τ] [Zero τ] [Timeline τ]

open Timeline

/-- Coming no earlier is transitive on events with times. -/
lemma not_before_trans (he : IsTime e.due) (hf : IsTime f.due) (hg : IsTime g.due)
    (hef : before e f = false) (hfg : before f g = false) : before e g = false := by
  obtain ⟨hlt, hor⟩ := not_before_iff.mp hef
  obtain ⟨hlt', hor'⟩ := not_before_iff.mp hfg
  refine not_before_iff.mpr ⟨not_lt_trans hf hlt hlt', ?_⟩
  by_cases hge : g.due < e.due
  · exact Or.inl hge
  · right
    -- with equal due times on both sides, only the orders are left
    have hnfe : ¬ f.due < e.due := fun h => not_lt_trans hg hlt' hge h
    have hngf : ¬ g.due < f.due := fun h => not_lt_trans he hge hlt h
    exact le_trans (hor'.resolve_left hngf) (hor.resolve_left hnfe)

/-! ## The first event of a queue -/

omit [Add τ] [Sub τ] [Zero τ] [Timeline τ] in
lemma mem_of_earliest? : ∀ {queue : List (Event τ κ)} {e : Event τ κ},
    earliest? queue = some e → e ∈ queue
  | [], _, h => by simp [earliest?] at h
  | f :: rest, e, h => by
    unfold earliest? at h
    cases hrest : earliest? rest with
    | none =>
      rw [hrest] at h
      simp only [Option.some.injEq] at h
      simp [h]
    | some g =>
      rw [hrest] at h
      have hg := mem_of_earliest? hrest
      by_cases hgf : before g f = true
      · simp only [hgf, if_true, Option.some.injEq] at h
        exact List.mem_cons_of_mem _ (h ▸ hg)
      · simp only [hgf, Bool.false_eq_true, if_false, Option.some.injEq] at h
        simp [h]

omit [Add τ] [Sub τ] [Zero τ] [Timeline τ] in
lemma earliest?_eq_none_iff {queue : List (Event τ κ)} : earliest? queue = none ↔ queue = [] := by
  cases queue with
  | nil => simp [earliest?]
  | cons f rest =>
    unfold earliest?
    cases earliest? rest with
    | none => simp
    | some g => by_cases hgf : before g f = true <;> simp [hgf]

/-- The drain loop takes an event before which no other one of the queue comes. -/
lemma earliest?_not_before : ∀ {queue : List (Event τ κ)} {e : Event τ κ},
    (∀ f ∈ queue, IsTime f.due) → earliest? queue = some e →
    ∀ f ∈ queue, before f e = false
  | [], e, _, h => by simp [earliest?] at h
  | f :: rest, e, htime, h => by
    have hself : ∀ e : Event τ κ, before e e = false := fun e =>
      not_before_iff.mpr ⟨fun hlt => not_lt_of_lt hlt hlt, Or.inr le_rfl⟩
    have htime' : ∀ g ∈ rest, IsTime g.due := fun g hg => htime g (List.mem_cons_of_mem _ hg)
    unfold earliest? at h
    cases hrest : earliest? rest with
    | none =>
      rw [hrest] at h
      simp only [Option.some.injEq] at h
      rw [earliest?_eq_none_iff] at hrest
      intro g hg
      rw [hrest, List.mem_singleton] at hg
      rw [hg, h]
      exact hself e
    | some first =>
      rw [hrest] at h
      have ih := earliest?_not_before htime' hrest
      have hfirst := htime' first (mem_of_earliest? hrest)
      by_cases hff : before first f = true
      · simp only [hff, if_true, Option.some.injEq] at h
        subst h
        intro g hg
        rcases List.mem_cons.mp hg with rfl | hg
        · -- `first` comes before the head, so the head does not come before it
          rw [not_before_iff]
          rcases before_iff.mp hff with hlt | ⟨hnlt, hord⟩
          · exact ⟨not_lt_of_lt hlt, Or.inl hlt⟩
          · exact ⟨hnlt, Or.inr hord.le⟩
        · exact ih g hg
      · simp only [hff, Bool.false_eq_true, if_false, Option.some.injEq] at h
        subst h
        intro g hg
        rcases List.mem_cons.mp hg with rfl | hg
        · exact hself g
        · exact not_before_trans (htime' g hg) hfirst (htime f (List.mem_cons_self ..))
            (ih g hg) (Bool.not_eq_true _ ▸ hff)

/-- The first event of a queue of differently scheduled events comes before each other one. -/
lemma earliest?_before {queue : List (Event τ κ)} {e f : Event τ κ}
    (htime : ∀ f ∈ queue, IsTime f.due) (horders : (queue.map (·.order)).Nodup)
    (he : earliest? queue = some e) (hf : f ∈ queue) (hne : f ≠ e) : before e f = true := by
  refine before_of_not_before (earliest?_not_before htime he f hf) fun heq => hne ?_
  exact List.inj_on_of_nodup_map horders hf (mem_of_earliest? he) heq

end Agenda

end SnippetRunner.Timer
