import SnippetRunner.Proofs.Number.FloatSum
import SnippetRunner.Proofs.Timer.Timeline
import SnippetRunner.Timer.Delay

/-!
# Floats as times

Seconds are floats. All of them but what is no number and the negative infinity are times, so that
what is proved of a `Timeline` holds of the clock that runs, and waiting ends on it.
`isTime_of_delayOfData` says that every delay that is let in is a time once it is clamped.
-/

namespace SnippetRunner.Timer

open SnippetRunner.Number Agenda

/-- A float that a clock can show. -/
def IsSeconds (a : Float) : Prop := ∃ x, place a = some x ∧ -unreached < x

variable {a b d : Float}

/-- A float that is not below zero has a place that is not negative. -/
lemma place_nonneg {x : Int} (hx : place a = some x) (h : ¬ a < 0) : 0 ≤ x := by
  by_contra hlt
  exact h (lt_iff_place.mpr ⟨x, 0, hx, place_zero, not_le.mp hlt⟩)

/-- A clock is not set back by a time span. -/
lemma place_add_span (ha : IsSeconds a) (hd : IsSeconds d) (h : ¬ d < 0) :
    ∃ x w, place a = some x ∧ place (a + d) = some w ∧ -unreached < x ∧ x ≤ w := by
  obtain ⟨x, hx, hxneg⟩ := ha
  obtain ⟨y, hy, hyneg⟩ := hd
  obtain ⟨w, hw, hle⟩ := le_place_add hx hy hxneg hyneg
  have hy0 := place_nonneg hy h
  exact ⟨x, w, hx, hw, hxneg, hle hx (by omega)⟩

/-- The time span up to a later time is not negative. -/
lemma place_sub_span (ha : IsSeconds a) (hb : IsSeconds b) (h : a < b) :
    ∃ w, place (b - a) = some w ∧ 0 ≤ w := by
  obtain ⟨x, hx, hxneg⟩ := ha
  obtain ⟨y, hy, hyneg⟩ := hb
  obtain ⟨x', y', hx', hy', hlt⟩ := lt_iff_place.mp h
  simp only [hx, hy, Option.some.injEq] at hx' hy'
  have hytop := (exists_canonical_of_place hy).1
  obtain ⟨w, hw, hle⟩ := le_place_sub hy hx hyneg (by omega)
  exact ⟨w, hw, hle place_zero (by omega)⟩

/-- Floats are times, with rounded sums: they compare by their places, and rounding passes none. -/
instance : Timeline Float where
  IsTime := IsSeconds
  not_lt_of_lt := by
    intro a b hab hba
    obtain ⟨x, y, hx, hy, hlt⟩ := lt_iff_place.mp hab
    obtain ⟨y', x', hy', hx', hlt'⟩ := lt_iff_place.mp hba
    simp only [hx, hy, Option.some.injEq] at hx' hy'
    omega
  not_lt_trans := by
    rintro a b c ⟨y, hy, -⟩ hab hbc hac
    obtain ⟨x, z, hx, hz, hlt⟩ := lt_iff_place.mp hac
    rcases lt_or_ge x y with hxy | hyx
    · exact hab (lt_iff_place.mpr ⟨x, y, hx, hy, hxy⟩)
    · exact hbc (lt_iff_place.mpr ⟨y, z, hy, hz, by omega⟩)
  isTime_zero := ⟨0, place_zero, by have := unreached_pos; omega⟩
  isTime_add := by
    intro a d ha hd h
    obtain ⟨x, w, -, hw, hxneg, hxw⟩ := place_add_span ha hd h
    exact ⟨w, hw, by omega⟩
  not_add_lt := by
    intro a d ha hd h hlt
    obtain ⟨x, w, hx, hw, -, hxw⟩ := place_add_span ha hd h
    obtain ⟨w', x', hw', hx', hlt'⟩ := lt_iff_place.mp hlt
    simp only [hx, hw, Option.some.injEq] at hx' hw'
    omega
  isTime_sub := by
    intro a b ha hb h
    obtain ⟨w, hw, hnonneg⟩ := place_sub_span ha hb h
    exact ⟨w, hw, by have := unreached_pos; omega⟩
  not_sub_lt_zero := by
    intro a b ha hb h hlt
    obtain ⟨w, hw, hnonneg⟩ := place_sub_span ha hb h
    obtain ⟨w', z, hw', hz, hlt'⟩ := lt_iff_place.mp hlt
    simp only [hw, place_zero, Option.some.injEq] at hw' hz
    omega
  lt_of_lt_add_zero := by
    intro a d hlt
    obtain ⟨z, x, hz, hx, hzx⟩ := lt_iff_place.mp hlt
    rw [place_add_zero] at hx
    exact lt_iff_place.mpr ⟨z, x, hz, hx, hzx⟩

/-- A wait takes the clock on to a greater float, even where its sum is rounded. -/
lemma lt_place_wait (ha : IsSeconds a) (hb : IsSeconds b) (h : a < b) :
    ∃ x y w, place a = some x ∧ place b = some y ∧ place (a + (b - a)) = some w ∧ x < y ∧ x < w := by
  obtain ⟨x, hx, hxneg⟩ := ha
  obtain ⟨y, hy, hyneg⟩ := hb
  obtain ⟨x', y', hx', hy', hlt⟩ := lt_iff_place.mp h
  simp only [hx, hy, Option.some.injEq] at hx' hy'
  have hytop := (exists_canonical_of_place hy).1
  have hunreached := unreached_pos
  obtain ⟨span, hspan, hle⟩ := le_place_sub hy hx hyneg (by omega)
  have hspan0 := hle place_zero (by omega)
  obtain ⟨w, hw, hle'⟩ := le_place_add hx hspan hxneg (by omega)
  -- some float is on the way, and as far from the clock as some float
  obtain ⟨c, g, z, hc, hg, hxz, hzy⟩ := exists_step hx hy (by omega)
  have hreach := hle hg (by omega)
  have hpass := hle' hc (by omega)
  exact ⟨x, y, w, hx, hy, hw, by omega, by omega⟩

/-- Waiting for a float comes to an end: there are finitely many places on the way. -/
instance : Arriving Float where
  waits now due := ((place due).getD 0 - (place now).getD 0).toNat
  waits_lt ha hb h := by
    obtain ⟨x, y, w, hx, hy, hw, hxy, hxw⟩ := lt_place_wait ha hb h
    simp only [hx, hy, hw, Option.getD_some]
    omega

/-! ## Delays -/

/-- A number is a time once it is clamped. -/
lemma isSeconds_clamp {x : Float} (h : place x ≠ none) : IsSeconds (clamp x) := by
  unfold clamp
  split_ifs with hneg
  · exact (Timeline.isTime_zero : Timeline.IsTime (0 : Float))
  · obtain ⟨y, hy⟩ := Option.ne_none_iff_exists'.mp h
    have hnonneg := place_nonneg hy hneg
    exact ⟨y, hy, by have := unreached_pos; omega⟩

lemma place_of_numberDelay {x y : Float} (h : numberDelay x = .ok y) : place y ≠ none := by
  unfold numberDelay at h
  split_ifs at h with hnan
  obtain rfl := Except.ok.inj h
  exact place_ne_none_iff.mpr (Bool.not_eq_true _ ▸ hnan)

/-- Every delay that is let in is a time span. -/
theorem isTime_of_delayOfData {v : Data} {x : Float} (h : delayOfData v = .ok x) :
    Timeline.IsTime (clamp x) := by
  refine isSeconds_clamp ?_
  unfold delayOfData at h
  split at h
  case h_1 b =>
    obtain rfl := Except.ok.inj h
    cases b <;> decide
  case h_2 n =>
    split at h
    case h_1 x hx => exact Except.ok.inj h ▸ place_ofInt?_ne_none hx
    case h_2 => cases h
  case h_3 x => exact place_of_numberDelay h
  case h_4 s =>
    split at h
    case h_1 => exact place_of_numberDelay h
    case h_2 => cases h
  case h_5 bs =>
    split at h
    case h_1 => exact place_of_numberDelay h
    case h_2 => cases h
  case h_6 => cases h

end SnippetRunner.Timer
