import Mathlib

/-!
# The order of floats

Every finite float is a whole number of times the least positive one, so finite floats compare as
integers. An infinity takes the place of the first power of two that no float reaches. `place` is
this integer, and none for what is no number; `lt_iff_place` says that floats compare by it.

A float is read off its bits in canonical form (`unpack_fits`), and a number in canonical form is
read back from its bits (`place_pack`), where one that is too large has become an infinity. Between
two floats there is a step that is itself as long as some float (`exists_step`).
-/

namespace SnippetRunner.Number

open Float.Model Float.Model.UnpackedFloat

/-! ## Magnitudes -/

/-- `m * 2 ^ e` in units of the least positive float, `2 ^ -1074`. -/
def units (m : Nat) (e : Int) : Nat := m * 2 ^ (e + 1074).toNat

/-- The exponent that no finite float has. It is kept closed, so that no tactic computes the power
of two that it stands for. -/
@[irreducible] def topExponent : Int := 972

lemma topExponent_eq : topExponent = 972 := by rw [topExponent]

/-- The magnitude that no finite float reaches, in the same units. -/
def unreached : Nat := units (2 ^ 52) topExponent

/-- A mantissa and an exponent as a float has them: 53 binary digits, or less at the least
exponent. -/
structure Canonical (m : Nat) (e : Int) : Prop where
  lt : m < 2 ^ 53
  least_le : -1074 ≤ e
  le_of_ne : e ≠ -1074 → 2 ^ 52 ≤ m

variable {m m' : Nat} {e e' : Int}

lemma units_pos (hm : 0 < m) : 0 < units m e := Nat.mul_pos hm (by positivity)

/-- A smaller exponent makes a smaller magnitude. -/
lemma Canonical.units_lt (c : Canonical m e) (c' : Canonical m' e') (he : e < e') :
    units m e < units m' e' := by
  have hle : (e + 1074).toNat + 1 ≤ (e' + 1074).toNat := by
    have := c.least_le
    omega
  have hm' : 2 ^ 52 ≤ m' := c'.le_of_ne (by have := c.least_le; omega)
  calc m * 2 ^ (e + 1074).toNat
      < 2 ^ 53 * 2 ^ (e + 1074).toNat := Nat.mul_lt_mul_of_pos_right c.lt (by positivity)
    _ = 2 ^ 52 * 2 ^ ((e + 1074).toNat + 1) := by ring
    _ ≤ m' * 2 ^ (e' + 1074).toNat :=
        Nat.mul_le_mul hm' (Nat.pow_le_pow_right (by decide) hle)

lemma units_lt_units : units m e < units m' e ↔ m < m' :=
  Nat.mul_lt_mul_right (by positivity)

lemma units_le_units : units m e ≤ units m' e ↔ m ≤ m' :=
  Nat.mul_le_mul_right_iff (by positivity)

/-- Canonical magnitudes compare by exponent, then by mantissa. -/
lemma Canonical.units_lt_iff (c : Canonical m e) (c' : Canonical m' e') :
    units m e < units m' e' ↔ e < e' ∨ e = e' ∧ m < m' := by
  rcases lt_trichotomy e e' with hlt | rfl | hgt
  · simp [hlt, c.units_lt c' hlt]
  · simp [units_lt_units]
  · have hlt := c'.units_lt c hgt
    constructor
    · intro h
      omega
    · rintro (h | ⟨h, -⟩) <;> omega

lemma units_mono (hm : m ≤ m') (he : e ≤ e') : units m e ≤ units m' e' :=
  Nat.mul_le_mul hm (Nat.pow_le_pow_right (by decide) (by omega))

lemma canonical_unreached : Canonical (2 ^ 52) topExponent :=
  ⟨by decide, by rw [topExponent_eq]; decide, fun _ => le_rfl⟩

/-- The exponents of floats stay below the magnitude that none reaches. -/
lemma Canonical.units_lt_unreached (c : Canonical m e) (he : e ≤ 971) : units m e < unreached :=
  c.units_lt canonical_unreached (by rw [topExponent_eq]; omega)

lemma Canonical.unreached_le (c : Canonical m e) (he : 971 < e) : unreached ≤ units m e :=
  units_mono (c.le_of_ne (by omega)) (by rw [topExponent_eq]; omega)

lemma unreached_pos : 0 < unreached := units_pos (by decide)

/-! ## Places -/

/-- The place of a float in the order of all floats. -/
def placeOf : UnpackedFloat → Option Int
  | .notANumber => none
  | .infinity s => some (s.apply unreached)
  | .zero _ => some 0
  | .finite s m e _ => some (s.apply (units m e))

/-- What is read off the bits of a float: canonical, with an exponent in range. -/
def Fits : UnpackedFloat → Prop
  | .finite _ m e _ => Canonical m e ∧ e ≤ 971
  | _ => True

lemma compare_then_eq_lt : (compare e e').then (compare m m') = .lt ↔ e < e' ∨ e = e' ∧ m < m' := by
  rcases lt_trichotomy e e' with hlt | rfl | hgt
  · simp [compare_lt_iff_lt.mpr hlt, hlt]
  · simp [compare_lt_iff_lt]
  · simp [compare_gt_iff_gt.mpr hgt, hgt.not_gt, hgt.ne']

lemma compare_then_eq_gt :
    (compare e e').then (compare m m') = .gt ↔ e' < e ∨ e' = e ∧ m' < m := by
  rcases lt_trichotomy e e' with hlt | rfl | hgt
  · simp [compare_lt_iff_lt.mpr hlt, hlt.not_gt, hlt.ne']
  · simp [compare_gt_iff_gt]
  · simp [compare_gt_iff_gt.mpr hgt, hgt]

/-- Unpacked floats compare by their places. -/
lemma lt_iff_placeOf {u v : UnpackedFloat} (hu : Fits u) (hv : Fits v) :
    u.lt v = true ↔ ∃ x y, placeOf u = some x ∧ placeOf v = some y ∧ x < y := by
  have htop := unreached_pos
  cases u with
  | notANumber => simp [UnpackedFloat.lt, UnpackedFloat.compare, placeOf]
  | infinity s =>
    cases v with
    | notANumber => cases s <;> simp [UnpackedFloat.lt, UnpackedFloat.compare, placeOf]
    | infinity s' =>
      cases s <;> cases s' <;>
        simp [UnpackedFloat.lt, UnpackedFloat.compare, placeOf, Sign.apply, compare]
      omega
    | zero s' =>
      cases s <;> simp [UnpackedFloat.lt, UnpackedFloat.compare, placeOf, Sign.apply]
      omega
    | finite s' m' e' pos' =>
      have hlt := hv.1.units_lt_unreached hv.2
      cases s <;> cases s' <;>
        simp [UnpackedFloat.lt, UnpackedFloat.compare, placeOf, Sign.apply] <;> omega
  | zero s =>
    cases v with
    | notANumber => simp [UnpackedFloat.lt, UnpackedFloat.compare, placeOf]
    | infinity s' =>
      cases s' <;> simp [UnpackedFloat.lt, UnpackedFloat.compare, placeOf, Sign.apply]
      omega
    | zero s' => simp [UnpackedFloat.lt, UnpackedFloat.compare, placeOf]
    | finite s' m' e' pos' =>
      have hpos := units_pos (e := e') pos'
      cases s' <;> simp [UnpackedFloat.lt, UnpackedFloat.compare, placeOf, Sign.apply]
      omega
  | finite s m e pos =>
    have hpos := units_pos (e := e) pos
    have hlt := hu.1.units_lt_unreached hu.2
    cases v with
    | notANumber => simp [UnpackedFloat.lt, UnpackedFloat.compare, placeOf]
    | infinity s' =>
      cases s <;> cases s' <;>
        simp [UnpackedFloat.lt, UnpackedFloat.compare, placeOf, Sign.apply] <;> omega
    | zero s' =>
      cases s <;> simp [UnpackedFloat.lt, UnpackedFloat.compare, placeOf, Sign.apply]
      omega
    | finite s' m' e' pos' =>
      have hpos' := units_pos (e := e') pos'
      -- of two negative floats, the one of the greater magnitude is less
      have hiff := hu.1.units_lt_iff hv.1
      have hiff' := hv.1.units_lt_iff hu.1
      cases s <;> cases s'
      · simp [UnpackedFloat.lt, UnpackedFloat.compare, placeOf, Sign.apply,
          compare_then_eq_gt, hiff']
      · simp [UnpackedFloat.lt, UnpackedFloat.compare, placeOf, Sign.apply]
        omega
      · simp [UnpackedFloat.lt, UnpackedFloat.compare, placeOf, Sign.apply]
      · simp [UnpackedFloat.lt, UnpackedFloat.compare, placeOf, Sign.apply,
          compare_then_eq_lt, hiff]

/-! ## Bits -/

/-- The implicit bit stands before the 52 bits of a mantissa. -/
lemma toNat_implicit_append (v : BitVec 52) : (1#1 ++ v).toNat = 2 ^ 52 + v.toNat := by
  rw [BitVec.toNat_append, ← Nat.shiftLeft_add_eq_or_of_lt v.isLt]
  rfl

/-- The greatest exponent marks infinities and what is no number. -/
lemma exponent_le_of_ne {v : BitVec 11} (h : v ≠ -1#11) : v.toNat ≤ 2046 := by
  have hne : v.toNat ≠ (-1#11).toNat := fun heq => h (BitVec.eq_of_toNat_eq heq)
  have hones : (-1#11).toNat = 2047 := by decide
  have hlt := v.isLt
  omega

lemma toNat_pos_of_ne {n : Nat} {v : BitVec n} (h : v ≠ 0#n) : 0 < v.toNat := by
  rw [BitVec.toNat_pos, BitVec.pos_iff_ne_zero]
  exact h

lemma binary64_bias : (Format.binary64.exponentBias : Int) = 1023 := by decide

/-- Bits are read as a float in canonical form. -/
lemma unpack_fits (b : BitVec Format.binary64.numBits) :
    Fits (UnpackedFloat.unpack Format.binary64 b) := by
  have hm : (unpackMantissa b).toNat < 2 ^ 52 := (unpackMantissa b).isLt
  unfold UnpackedFloat.unpack
  simp only [binary64_bias]
  split_ifs with htop hinfinity hbottom hzero
  · trivial
  · trivial
  · trivial
  · have he : (unpackExponent b).toNat = 0 := by simp [hbottom]
    refine ⟨⟨by omega, by omega, fun hne => ?_⟩, by omega⟩
    exact absurd (by omega) hne
  · have he := exponent_le_of_ne htop
    have he' : 0 < (unpackExponent b).toNat := toNat_pos_of_ne hbottom
    refine ⟨⟨?_, by omega, fun _ => ?_⟩, by omega⟩
    all_goals
      rw [toNat_implicit_append]
      omega

/-- The place of a float with the given parts. -/
lemma placeOf_unpack_packComponents (s : Sign) (x : BitVec 11) (v : BitVec 52) :
    placeOf (UnpackedFloat.unpack .binary64 (packComponents .binary64 s x v)) =
      if x = -1#11 then if v = 0#52 then some (s.apply unreached) else none
      else if x = 0#11 then some (s.apply (units v.toNat (-1074)))
      else some (s.apply (units (2 ^ 52 + v.toNat) (x.toNat - 1075))) := by
  unfold UnpackedFloat.unpack
  simp only [unpackMantissa_packComponents, unpackExponent_packComponents,
    unpackSign_packComponents, Sign.ofBitVec_toBitVec, binary64_bias]
  split_ifs with htop hinfinity hbottom hzero
  · rfl
  · rfl
  · cases s <;> simp [placeOf, hzero, units, Sign.apply]
  · simp [placeOf, hbottom]
  · simp only [placeOf, toNat_implicit_append]
    rfl

/-- A float in canonical form is read back from its bits, as an infinity if it is too large. -/
lemma placeOf_unpack_pack (s : Sign) (pos : 0 < m) (c : Canonical m e) :
    placeOf (UnpackedFloat.unpack .binary64 (UnpackedFloat.pack .binary64 (.finite s m e pos))) =
      some (s.apply (min (units m e) unreached : Nat)) := by
  have hleast := c.least_le
  unfold UnpackedFloat.pack
  simp only [binary64_bias]
  split_ifs with htop hnormal
  -- overflow
  · have hle := c.unreached_le (by omega)
    simp [packedInfinity, placeOf_unpack_packComponents, hle]
  -- the leading digit is left out of the bits
  · have hlt := c.units_lt_unreached (by omega)
    have hm : 2 ^ 52 ≤ m := by
      have hlog : m.log2 = 52 := by
        simp only [Format.mantissaBits] at hnormal
        omega
      exact hlog ▸ Nat.log2_self_le pos.ne'
    have hx : (BitVec.ofNat 11 (e + 1023 + (52 : Nat)).toNat).toNat = (e + 1075).toNat := by
      rw [BitVec.toNat_ofNat]
      omega
    have hv : 2 ^ 52 + (BitVec.ofNat 52 m).toNat = m := by
      have := c.lt
      rw [BitVec.toNat_ofNat]
      omega
    have he : ((e + 1075).toNat : Int) - 1075 = e := by omega
    rw [placeOf_unpack_packComponents, if_neg, if_neg, hx, hv, he, Nat.min_eq_left hlt.le]
    · intro h
      rw [h, BitVec.toNat_ofNat] at hx
      omega
    · intro h
      rw [h] at hx
      have hones : (-1#11).toNat = 2047 := by decide
      omega
  -- a short mantissa, which only the least exponent has
  · have hm : m < 2 ^ 52 := by
      by_contra hge
      have hlog : m.log2 = 52 := by
        have := c.lt
        rw [Nat.log2_eq_iff pos.ne']
        omega
      simp [Format.mantissaBits, hlog] at hnormal
    have he : e = -1074 := by
      by_contra hne
      have := c.le_of_ne hne
      omega
    have hlt := c.units_lt_unreached (by omega)
    have hv : (BitVec.ofNat 52 m).toNat = m := by
      rw [BitVec.toNat_ofNat]
      omega
    rw [placeOf_unpack_packComponents, if_neg (by decide), if_pos rfl, hv, Nat.min_eq_left hlt.le, he]

/-! ## Floats -/

/-- The place of a float in the order of all floats, and none for what is no number. -/
def place (x : Float) : Option Int := placeOf x.toModel.unpack

/-- Floats compare by their places. -/
theorem lt_iff_place {a b : Float} :
    a < b ↔ ∃ x y, place a = some x ∧ place b = some y ∧ x < y := by
  have hlt : a < b ↔ a.toModel.unpack.lt b.toModel.unpack = true := by
    show decide (a.toModel < b.toModel) = true ↔ _
    rw [decide_eq_true_iff]
    rfl
  rw [hlt]
  exact lt_iff_placeOf (unpack_fits _) (unpack_fits _)

/-- The places that floats have: those of canonical magnitudes up to the infinite ones. -/
lemma exists_canonical_of_place {x : Float} {z : Int} (h : place x = some z) :
    z.natAbs ≤ unreached ∧ ∃ m e, Canonical m e ∧ z.natAbs = units m e := by
  have hfits : Fits x.toModel.unpack := unpack_fits _
  unfold place at h
  cases hx : x.toModel.unpack with
  | notANumber => simp [hx, placeOf] at h
  | infinity s =>
    rw [hx, placeOf, Option.some.injEq] at h
    have habs : z.natAbs = unreached := by cases s <;> simp [← h, Sign.apply]
    exact ⟨habs.le, 2 ^ 52, topExponent, canonical_unreached, habs⟩
  | zero s =>
    rw [hx, placeOf, Option.some.injEq] at h
    exact ⟨by simp [← h], 0, -1074, ⟨by decide, by decide, by simp⟩, by simp [← h, units]⟩
  | finite s m e pos =>
    rw [hx] at h hfits
    rw [placeOf, Option.some.injEq] at h
    have habs : z.natAbs = units m e := by cases s <;> simp [← h, Sign.apply]
    exact ⟨habs ▸ (hfits.1.units_lt_unreached hfits.2).le, m, e, hfits.1, habs⟩

lemma place_zero : place 0 = some 0 := by decide

/-! ## Steps between floats -/

/-- A short mantissa has a canonical form at any exponent. -/
lemma exists_canonical (pos : 0 < m) (hm : m ≤ 2 ^ 53) (k : Nat) :
    ∃ m' e, 0 < m' ∧ Canonical m' e ∧ units m' e = m * 2 ^ k := by
  induction k generalizing m with
  | zero =>
    rcases hm.lt_or_eq with hlt | rfl
    · exact ⟨m, -1074, pos, ⟨hlt, le_rfl, by simp⟩, by simp [units]⟩
    · exact ⟨2 ^ 52, -1073, by decide, ⟨by decide, by decide, fun _ => le_rfl⟩, by decide⟩
  | succ k ih =>
    by_cases hshort : 2 * m ≤ 2 ^ 53
    · obtain ⟨m', e, hpos, c, hunits⟩ := ih (by omega) hshort
      exact ⟨m', e, hpos, c, by rw [hunits]; ring⟩
    rcases hm.lt_or_eq with hlt | rfl
    · exact ⟨m, k + 1 - 1074, pos, ⟨hlt, by omega, fun _ => by omega⟩, by simp [units]⟩
    · refine ⟨2 ^ 52, k + 2 - 1074, by decide, ⟨by decide, by omega, fun _ => le_rfl⟩, ?_⟩
      have hexp : ((k : Int) + 2 - 1074 + 1074).toNat = k + 2 := by omega
      rw [units, hexp]
      ring

/-- Every short mantissa at any exponent is the place of a float, up to the infinities. -/
lemma exists_place (s : Sign) (hm : m ≤ 2 ^ 53) {k : Nat} (htop : m * 2 ^ k ≤ unreached) :
    ∃ c, place c = some (s.apply (m * 2 ^ k : Nat)) := by
  rcases Nat.eq_zero_or_pos m with rfl | pos
  · exact ⟨0, by rw [place_zero]; cases s <;> simp [Sign.apply]⟩
  · obtain ⟨m', e, hpos, c, hunits⟩ := exists_canonical pos hm k
    refine ⟨.ofModel (.pack (.finite s m' e hpos)), (placeOf_unpack_pack s hpos c).trans ?_⟩
    rw [hunits, Nat.min_eq_left htop]


/-- Between two magnitudes there is one that is as far above the lower one as some float. -/
lemma Canonical.exists_above (c : Canonical m e) (c' : Canonical m' e')
    (hlt : units m e < units m' e') : ∃ k, m + 1 ≤ 2 ^ 53 ∧ (m + 1) * 2 ^ k ≤ units m' e' ∧
      (m + 1) * 2 ^ k = units m e + 1 * 2 ^ k := by
  have hm := c.lt
  refine ⟨(e + 1074).toNat, by omega, ?_, by rw [units]; ring⟩
  rcases (c.units_lt_iff c').mp hlt with he | ⟨rfl, hmm'⟩
  · have hexp : (e + 1074).toNat + 1 ≤ (e' + 1074).toNat := by
      have := c.least_le
      omega
    have hm' : 2 ^ 52 ≤ m' := c'.le_of_ne (by have := c.least_le; omega)
    calc (m + 1) * 2 ^ (e + 1074).toNat
        ≤ 2 ^ 53 * 2 ^ (e + 1074).toNat := Nat.mul_le_mul_right _ (by omega)
      _ = 2 ^ 52 * 2 ^ ((e + 1074).toNat + 1) := by ring
      _ ≤ units m' e' := Nat.mul_le_mul hm' (Nat.pow_le_pow_right (by decide) hexp)
  · exact Nat.mul_le_mul_right _ hmm'

/-- Between two magnitudes there is one that is as far below the upper one as some float. -/
lemma Canonical.exists_below (c : Canonical m e) (c' : Canonical m' e')
    (hlt : units m e < units m' e') : ∃ n i r j, n ≤ 2 ^ 53 ∧ r ≤ 2 ^ 53 ∧ 0 < r * 2 ^ j ∧
      units m e ≤ n * 2 ^ i ∧ n * 2 ^ i + r * 2 ^ j = units m' e' := by
  have hm := c.lt
  have hm' := c'.lt
  have hpos : 0 < m' := by
    by_contra hzero
    obtain rfl : m' = 0 := by omega
    simp [units] at hlt
  have hunits' : (m' - 1) * 2 ^ (e' + 1074).toNat + 1 * 2 ^ (e' + 1074).toNat = units m' e' := by
    rw [← add_mul, Nat.sub_add_cancel hpos, units]
  by_cases hle : units m e ≤ (m' - 1) * 2 ^ (e' + 1074).toNat
  · exact ⟨m' - 1, _, 1, _, by omega, by decide, by positivity, hle, hunits'⟩
  -- within the last step, the lower magnitude is a multiple of a smaller power of two
  have he : e < e' := by
    rcases (c.units_lt_iff c').mp hlt with he | ⟨rfl, hmm'⟩
    · exact he
    · exact absurd (Nat.mul_le_mul_right _ (by omega : m ≤ m' - 1)) hle
  obtain ⟨s, hs⟩ : ∃ s, (e' + 1074).toNat = (e + 1074).toNat + s :=
    Nat.exists_eq_add_of_le (by omega)
  have hhigh : 2 ^ 52 ≤ m' := c'.le_of_ne (by have := c.least_le; omega)
  have hpow : 0 < 2 ^ (e + 1074).toNat := by positivity
  have hlow : (m' - 1) * 2 ^ s < m := by
    rw [hs, pow_add, units, not_le] at hle
    refine lt_of_mul_lt_mul_right (lt_of_eq_of_lt ?_ hle) hpow.le
    ring
  have hup : m < m' * 2 ^ s := by
    rw [units, units, hs, pow_add] at hlt
    refine lt_of_mul_lt_mul_right (lt_of_lt_of_eq hlt ?_) hpow.le
    ring
  have hsmall : 2 ^ s ≤ (m' - 1) * 2 ^ s := Nat.le_mul_of_pos_left _ (by omega)
  have hsplit : (m' - 1) * 2 ^ s + 2 ^ s = m' * 2 ^ s := by
    rw [← Nat.succ_mul, Nat.succ_eq_add_one, Nat.sub_add_cancel hpos]
  refine ⟨m, (e + 1074).toNat, m' * 2 ^ s - m, (e + 1074).toNat, by omega, by omega,
    Nat.mul_pos (by omega) hpow, le_rfl, ?_⟩
  rw [← add_mul, Nat.add_sub_cancel' hup.le, units, hs, pow_add]
  ring

/-- From a float towards a greater one, some step is itself a float. -/
lemma exists_step {a b : Float} {x y : Int} (hx : place a = some x) (hy : place b = some y)
    (hlt : x < y) : ∃ c g z, place c = some z ∧ place g = some (z - x) ∧ x < z ∧ z ≤ y := by
  obtain ⟨hxtop, m, e, c, hxm⟩ := exists_canonical_of_place hx
  obtain ⟨hytop, m', e', c', hym⟩ := exists_canonical_of_place hy
  rcases lt_or_ge x 0 with hxneg | hxpos
  · rcases lt_or_ge y 0 with hyneg | hypos
    · obtain ⟨n, i, r, j, hn, hr, hrpos, hle, hsum⟩ :=
        c'.exists_below c (by omega)
      obtain ⟨f, hf⟩ := exists_place .negative hn (k := i) (by omega)
      obtain ⟨g, hg⟩ := exists_place .positive hr (k := j) (by omega)
      simp only [Sign.apply] at hf hg
      refine ⟨f, g, _, hf, hg.trans (congrArg some ?_), ?_, ?_⟩ <;> omega
    · obtain ⟨g, hg⟩ := exists_place .positive c.lt.le (k := (e + 1074).toNat)
        (by rw [← units]; omega)
      rw [← units, ← hxm] at hg
      simp only [Sign.apply] at hg
      exact ⟨0, g, 0, place_zero, hg.trans (congrArg some (by omega)), hxneg, hypos⟩
  · obtain ⟨k, hm, hle, hsum⟩ := c.exists_above c' (by omega)
    obtain ⟨f, hf⟩ := exists_place .positive hm (k := k) (by omega)
    obtain ⟨g, hg⟩ := exists_place .positive (m := 1) (by decide) (k := k) (by omega)
    simp only [Sign.apply] at hf hg
    have hpow : 0 < 1 * 2 ^ k := by positivity
    refine ⟨f, g, _, hf, hg.trans (congrArg some ?_), ?_, ?_⟩ <;> omega

end SnippetRunner.Number
