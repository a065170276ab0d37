import SnippetRunner.Number.Dyadic
import SnippetRunner.Proofs.Number.FloatOrder

/-!
# Sums and differences of floats

Places are whole numbers, so that finite floats have exact sums among them. A sum of floats is this
number rounded to the place of a float, and rounding is `Faithful`: it does not pass the place of
any float. That is all the order of times needs, and it is weaker than rounding to nearest.

* `le_place_add`, `le_place_sub` and `place_add_zero` are what is needed of sums and differences.
* `place_ofInt?_ne_none` says that an integer is read as a number.
-/

namespace SnippetRunner.Number

open Float.Model Float.Model.UnpackedFloat

variable {m m' k : Nat} {e e' : Int}

/-! ## Dropping digits -/

lemma shiftRight_succ (em : ExtendedMantissa) (k : Nat) :
    em >>> (k + 1) = (em >>> k).shiftRightOne := rfl

/-- Digits that are shifted out leave a trace in the residual bits, unless all of them are zero. -/
lemma shiftRight_exact (m k : Nat) :
    let em := ExtendedMantissa.ofMantissaAndAccuracy m .exact >>> k
    em.mantissa = m / 2 ^ k ∧ (2 ^ k ∣ m → em.roundBit = false ∧ em.stickyBit = false) := by
  induction k with
  | zero => exact ⟨(Nat.div_one m).symm, fun _ => ⟨rfl, rfl⟩⟩
  | succ k ih =>
    obtain ⟨hmantissa, hexact⟩ := ih
    rw [shiftRight_succ]
    refine ⟨?_, fun hdvd => ?_⟩
    · simp only [ExtendedMantissa.shiftRightOne, hmantissa]
      rw [Nat.div_div_eq_div_mul, pow_succ]
    · obtain ⟨q, rfl⟩ := hdvd
      have hdvd' : 2 ^ k ∣ 2 ^ (k + 1) * q := Dvd.intro (2 * q) (by ring)
      have hdiv : 2 ^ (k + 1) * q / 2 ^ k = 2 * q := by
        rw [pow_succ, mul_assoc, Nat.mul_div_cancel_left _ (by positivity)]
      obtain ⟨hround, hsticky⟩ := hexact hdvd'
      simp [ExtendedMantissa.shiftRightOne, hmantissa, hdiv, hround, hsticky]

/-- A mantissa is rounded down or up. -/
lemma roundedMantissa_bounds (em : ExtendedMantissa) :
    em.mantissa ≤ em.roundedMantissa ∧ em.roundedMantissa ≤ em.mantissa + 1 := by
  obtain ⟨m, roundBit, stickyBit⟩ := em
  cases roundBit <;> cases stickyBit <;>
    simp only [ExtendedMantissa.roundedMantissa, ExtendedMantissa.accuracy,
      Accuracy.roundToNearestEven] <;> omega

lemma roundedMantissa_exact {em : ExtendedMantissa} (hround : em.roundBit = false)
    (hsticky : em.stickyBit = false) : em.roundedMantissa = em.mantissa := by
  obtain ⟨m, roundBit, stickyBit⟩ := em
  subst hround hsticky
  rfl

/-! ## The exponent of a float -/

lemma binary64_targetExponent (e : Int) :
    Format.binary64.targetExponent e = max (e - 53) (-1074) := by
  have hmin : Format.binary64.minExponent = -1074 := by decide
  have hbits : Format.binary64.mantissaBits = 53 := by decide
  simp [Format.targetExponent, hmin, hbits]

/-- A mantissa in canonical form stays where it is. -/
lemma Canonical.targetExponent_eq (c : Canonical m e) (pos : 0 < m) :
    Format.binary64.targetExponent (totalExponent m e) = e := by
  have hlog : m.log2 < 53 := (Nat.log2_lt pos.ne').mpr c.lt
  have hleast := c.least_le
  rw [binary64_targetExponent, totalExponent]
  by_cases he : e = -1074
  · omega
  · have hlog' : 52 ≤ m.log2 := (Nat.le_log2 pos.ne').mpr (c.le_of_ne he)
    omega

/-- What is left of a mantissa at its target exponent is in canonical form. -/
lemma canonical_of_targetExponent (pos : 0 < m) (hleast : -1074 ≤ e)
    (ht : Format.binary64.targetExponent (totalExponent m e) = e + k) :
    Canonical (m / 2 ^ k) (e + k) := by
  rw [binary64_targetExponent, totalExponent] at ht
  refine ⟨?_, by omega, fun hne => ?_⟩
  · rw [Nat.div_lt_iff_lt_mul (by positivity), ← pow_add]
    calc m < 2 ^ (m.log2 + 1) := Nat.lt_log2_self
      _ ≤ 2 ^ (53 + k) := Nat.pow_le_pow_right (by decide) (by omega)
  · rw [Nat.le_div_iff_mul_le (by positivity), ← pow_add]
    calc 2 ^ (52 + k) = 2 ^ m.log2 := by congr 1; omega
      _ ≤ m := Nat.log2_self_le pos.ne'

/-- A mantissa that was rounded up to one digit too many loses its last digit, which is zero. -/
lemma shiftToTargetExponent_canonical (c : Canonical m e) {r : Nat} (hr : r = m ∨ r = m + 1)
    (pos : 0 < m) :
    let shifted := shiftToTargetExponent Format.binary64 r e .exact
    Canonical shifted.1.mantissa shifted.2 ∧ 0 < shifted.1.mantissa ∧
      units shifted.1.mantissa shifted.2 = units r e := by
  have hlt := c.lt
  have hleast := c.least_le
  by_cases hcarry : r = 2 ^ 53
  · subst hcarry
    have ht : Format.binary64.targetExponent (totalExponent (2 ^ 53) e) = e + 1 := by
      rw [binary64_targetExponent, totalExponent, Nat.log2_two_pow]
      omega
    have hone : (e + 1 - e).toNat = 1 := by omega
    have hexp : (e + 1 + 1074).toNat = (e + 1074).toNat + 1 := by omega
    simp only [shiftToTargetExponent, shiftToExponent, ht, hone, shiftRight_exact, Nat.cast_one]
    refine ⟨⟨by decide, by omega, fun _ => by decide⟩, by decide, ?_⟩
    rw [units, units, hexp]
    ring
  · have c' : Canonical r e := ⟨by omega, hleast, fun hne => by have := c.le_of_ne hne; omega⟩
    have ht := c'.targetExponent_eq (by omega)
    have hzero : (e - e).toNat = 0 := by omega
    simp only [shiftToTargetExponent, shiftToExponent, ht, hzero, shiftRight_exact, pow_zero,
      Nat.div_one, Nat.cast_zero, add_zero]
    exact ⟨c', by omega, trivial⟩

/-! ## Rounding -/

/-- Rounding down or up, and not at all when nothing is lost, passes no canonical magnitude. -/
lemma units_faithful {q r c : Nat} {t : Int} (hq : Canonical q t) (hc : Canonical c e')
    {u : Nat} (hlow : units q t ≤ u) (hhigh : u < units (q + 1) t) (hr : r = q ∨ r = q + 1)
    (hexact : u = units q t → r = q) :
    (units c e' ≤ u → units c e' ≤ units r t) ∧ (u ≤ units c e' → units r t ≤ units c e') := by
  have hqr : units q t ≤ units r t := units_mono (by omega) le_rfl
  rcases lt_or_ge e' t with hlt | hge
  · -- a smaller exponent is below what is rounded
    have hbelow := hc.units_lt hq hlt
    exact ⟨fun _ => by omega, fun _ => by omega⟩
  · -- an exponent that is no smaller gives a multiple of the last digit
    obtain ⟨x, hx⟩ : ∃ x, units c e' = units x t := by
      refine ⟨c * 2 ^ (e' - t).toNat, ?_⟩
      have hexp : (e' + 1074).toNat = (e' - t).toNat + (t + 1074).toNat := by
        have := hq.least_le
        omega
      rw [units, units, hexp, pow_add, mul_assoc]
    rw [hx]
    constructor
    · intro hxu
      have hxq : x < q + 1 := units_lt_units.mp (lt_of_le_of_lt hxu hhigh)
      exact units_le_units.mpr (by omega)
    · intro hux
      have hqx : q ≤ x := units_le_units.mp (hlow.trans hux)
      rcases hqx.eq_or_lt with rfl | hlt
      · rw [hexact (le_antisymm hux hlow)]
      · exact units_le_units.mpr (by omega)

/-- A float between whose magnitude and `u` there is no other canonical magnitude. -/
def RoundsTo (u : Nat) (s : Sign) (x : UnpackedFloat) : Prop :=
  ∃ m e pos, x = .finite s m e pos ∧ Canonical m e ∧ ∀ {c : Nat} {e' : Int}, Canonical c e' →
    (units c e' ≤ u → units c e' ≤ units m e) ∧ (u ≤ units c e' → units m e ≤ units c e')

/-- Digits beyond the target exponent are rounded away. -/
lemma roundWithAccuracy_roundsTo (s : Sign) (pos : 0 < m) (hleast : -1074 ≤ e)
    (ht : e ≤ Format.binary64.targetExponent (totalExponent m e)) :
    RoundsTo (units m e) s (roundWithAccuracy Format.binary64 s m e .exact) := by
  obtain ⟨k, hk⟩ : ∃ k : Nat, Format.binary64.targetExponent (totalExponent m e) = e + k :=
    ⟨(Format.binary64.targetExponent (totalExponent m e) - e).toNat, by omega⟩
  have hq : Canonical (m / 2 ^ k) (e + k) := canonical_of_targetExponent pos hleast hk
  have hqpos : 0 < m / 2 ^ k := by
    by_cases hne : e + k = -1074
    · obtain rfl : k = 0 := by omega
      simpa using pos
    · have := hq.le_of_ne hne
      omega
  set em := ExtendedMantissa.ofMantissaAndAccuracy m .exact >>> k with hem
  obtain ⟨hmantissa, hexact⟩ := shiftRight_exact m k
  rw [← hem] at hmantissa hexact
  have hbounds := roundedMantissa_bounds em
  rw [hmantissa] at hbounds
  have hr : em.roundedMantissa = m / 2 ^ k ∨ em.roundedMantissa = m / 2 ^ k + 1 := by omega
  -- the first shift brings the mantissa to the target exponent, the second one makes room for the
  -- digit that rounding may have added
  have hfirst : shiftToTargetExponent Format.binary64 m e .exact = (em, e + k) := by
    have hamount : (e + k - e).toNat = k := by omega
    rw [shiftToTargetExponent, hk, shiftToExponent, hamount]
  obtain ⟨hcanonical, hpos, hunits⟩ := shiftToTargetExponent_canonical hq hr hqpos
  refine ⟨_, _, hpos, ?_, hcanonical, ?_⟩
  · rw [roundWithAccuracy, hfirst]
    simp only
    rw [dif_neg hpos.ne']
  · intro c e' hc
    rw [hunits]
    have hdigits : units m e = m * 2 ^ (e + 1074).toNat := rfl
    have hunit : ∀ x, units x (e + k) = x * 2 ^ k * 2 ^ (e + 1074).toNat := by
      intro x
      have hexp : (e + k + 1074).toNat = k + (e + 1074).toNat := by omega
      rw [units, hexp, pow_add, mul_assoc]
    refine units_faithful hq hc ?_ ?_ hr ?_
    · rw [hunit, hdigits]
      exact Nat.mul_le_mul_right _ (Nat.div_mul_le_self m _)
    · rw [hunit, hdigits]
      exact Nat.mul_lt_mul_of_pos_right (Nat.lt_mul_of_div_lt (Nat.lt_succ_self _) (by positivity)) (by positivity)
    · intro heq
      rw [hunit, hdigits] at heq
      have hdvd : 2 ^ k ∣ m :=
        Dvd.intro_left _ (Nat.eq_of_mul_eq_mul_right (by positivity) heq).symm
      obtain ⟨hround, hsticky⟩ := hexact hdvd
      rw [roundedMantissa_exact hround hsticky, hmantissa]

lemma log2_shiftLeft (pos : 0 < m) (k : Nat) : (m <<< k).log2 = m.log2 + k := by
  rw [Nat.shiftLeft_eq, Nat.log2_eq_iff (Nat.mul_pos pos (by positivity)).ne']
  constructor
  · rw [pow_add]
    exact Nat.mul_le_mul_right _ (Nat.log2_self_le pos.ne')
  · rw [add_right_comm, pow_add]
    exact Nat.mul_lt_mul_of_pos_right Nat.lt_log2_self (by positivity)

/-- Lowering the exponent keeps the magnitude. -/
lemma units_decreaseExponent {t : Int} (ht : -1074 ≤ t) (hleast : -1074 ≤ e) :
    (decreaseExponent m e t).2 = min e t ∧
      units (decreaseExponent m e t).1 (decreaseExponent m e t).2 = units m e := by
  have hexp : (e + 1074).toNat = (e - t).toNat + (e - (e - t).toNat + 1074).toNat := by omega
  simp only [decreaseExponent]
  refine ⟨by omega, ?_⟩
  rw [units, units, hexp, Nat.shiftLeft_eq, pow_add, mul_assoc]

/-- Numbers that are no finer than the least float are rounded to a float. -/
lemma round_roundsTo (s : Sign) (pos : 0 < m) (hleast : -1074 ≤ e) :
    RoundsTo (units m e) s (round Format.binary64 s m e) := by
  set t := Format.binary64.targetExponent (totalExponent m e) with ht
  have htarget : -1074 ≤ t := by
    rw [ht, binary64_targetExponent]
    exact le_max_right _ _
  obtain ⟨hexponent, hunits⟩ := units_decreaseExponent (m := m) htarget hleast
  have htotal : totalExponent (decreaseExponent m e t).1 (decreaseExponent m e t).2
      = totalExponent m e := by
    simp only [totalExponent, decreaseExponent, log2_shiftLeft pos]
    omega
  have hpos : 0 < (decreaseExponent m e t).1 := by
    simp only [decreaseExponent, Nat.shiftLeft_eq]
    positivity
  have hrounds := roundWithAccuracy_roundsTo s hpos (e := (decreaseExponent m e t).2)
    (by omega) (by rw [htotal, ← ht]; omega)
  rw [hunits] at hrounds
  exact hrounds

/-! ## Faithful results -/

/-- `v` is `x` rounded to the place of a float: the place of no float is passed. -/
structure Faithful (x v : Int) : Prop where
  le : ∀ {a : Float} {z : Int}, place a = some z → z ≤ x → z ≤ v
  ge : ∀ {a : Float} {z : Int}, place a = some z → x ≤ z → v ≤ z

lemma Faithful.refl (x : Int) : Faithful x x := ⟨fun _ h => h, fun _ h => h⟩

/-- What is rounded and packed has a place that is faithful. -/
lemma RoundsTo.place_pack {u : Nat} {s : Sign} {x : UnpackedFloat} (h : RoundsTo u s x) :
    ∃ v, place (.ofModel (.pack x)) = some v ∧ Faithful (s.apply u) v := by
  obtain ⟨m, e, pos, rfl, c, hfaithful⟩ := h
  refine ⟨_, placeOf_unpack_pack s pos c, fun {a z} ha => ?_, fun {a z} ha => ?_⟩
  -- a place has one sign, so it compares with the rounded number by magnitude or by sign alone
  all_goals
    obtain ⟨hle, m', e', c', hz⟩ := exists_canonical_of_place ha
    have hfaithful := hfaithful c'
    rw [← hz] at hfaithful
    cases s
    all_goals
      simp only [Sign.apply]
      omega

/-! ## Sums -/

lemma place_pack_zero (s : Sign) : place (.ofModel (.pack (.zero s))) = some 0 := by
  cases s <;> decide

lemma place_pack_infinity (s : Sign) :
    place (.ofModel (.pack (.infinity s))) = some (s.apply unreached) := by
  show placeOf (UnpackedFloat.unpack .binary64 (packComponents .binary64 s (-1#11) 0#52)) = _
  rw [placeOf_unpack_packComponents, if_pos rfl, if_pos rfl]

/-- A float that was read off bits is packed into the same place. -/
lemma place_pack {u : UnpackedFloat} {x : Int} (h : Fits u) (hx : placeOf u = some x) :
    place (.ofModel (.pack u)) = some x := by
  rw [← hx]
  cases u with
  | notANumber => simp [placeOf] at hx
  | infinity s => exact place_pack_infinity s
  | zero s => exact place_pack_zero s
  | finite s m e pos =>
    refine (placeOf_unpack_pack s pos h.1).trans ?_
    rw [Nat.min_eq_left (h.1.units_lt_unreached h.2).le]
    rfl

/-- A whole number of least floats is rounded to a float. -/
lemma place_pack_normalize (n : Int) (hleast : -1074 ≤ e) (s : Sign) :
    ∃ v, place (.ofModel (.pack (UnpackedFloat.normalize Format.binary64 n e s))) = some v ∧
      Faithful (n * 2 ^ (e + 1074).toNat) v := by
  rcases lt_trichotomy n 0 with hlt | rfl | hgt
  · have hrounds := round_roundsTo .negative (m := (-n).toNat) (by omega) hleast
    have hn : n * 2 ^ (e + 1074).toNat = Sign.negative.apply (units (-n).toNat e) := by
      simp only [Sign.apply, units, Nat.cast_mul, Nat.cast_pow, Nat.cast_ofNat,
        Int.toNat_of_nonneg (by omega : 0 ≤ -n), neg_mul, neg_neg]
    rw [UnpackedFloat.normalize, compare_lt_iff_lt.mpr hlt, hn]
    exact hrounds.place_pack
  · refine ⟨0, place_pack_zero s, ?_⟩
    rw [zero_mul]
    exact Faithful.refl 0
  · have hrounds := round_roundsTo .positive (m := n.toNat) (by omega) hleast
    have hn : n * 2 ^ (e + 1074).toNat = Sign.positive.apply (units n.toNat e) := by
      simp only [Sign.apply, units, Nat.cast_mul, Nat.cast_pow, Nat.cast_ofNat,
        Int.toNat_of_nonneg hgt.le]
    rw [UnpackedFloat.normalize, compare_gt_iff_gt.mpr hgt, hn]
    exact hrounds.place_pack

/-- A mantissa at a lower exponent stands for the same place. -/
lemma apply_decreaseExponent (s : Sign) {t : Int} (ht : -1074 ≤ t) (hle : t ≤ e) :
    s.apply (decreaseExponent m e t).1 * 2 ^ (t + 1074).toNat = s.apply (units m e) := by
  obtain ⟨hexponent, hunits⟩ := units_decreaseExponent (m := m) ht (ht.trans hle)
  rw [hexponent, min_eq_right hle] at hunits
  rw [← hunits]
  cases s <;> simp [Sign.apply, units]

/-- The sum of two finite floats is the sum of their places, rounded. -/
lemma place_pack_add {u v : UnpackedFloat} {x y : Int} (hu : Fits u) (hv : Fits v)
    (hx : placeOf u = some x) (hy : placeOf v = some y)
    (hfinite : x.natAbs < unreached) (hfinite' : y.natAbs < unreached) :
    ∃ w, place (.ofModel (.pack (UnpackedFloat.add Format.binary64 u v))) = some w ∧
      Faithful (x + y) w := by
  cases u with
  | notANumber => simp [placeOf] at hx
  | infinity s =>
    rw [placeOf, Option.some.injEq] at hx
    cases s <;> simp [← hx, Sign.apply] at hfinite
  | zero s =>
    obtain rfl : 0 = x := by simpa [placeOf] using hx
    rw [zero_add]
    cases v with
    | notANumber => simp [placeOf] at hy
    | infinity s' =>
      rw [placeOf, Option.some.injEq] at hy
      cases s' <;> simp [← hy, Sign.apply] at hfinite'
    | zero s' =>
      obtain rfl : 0 = y := by simpa [placeOf] using hy
      refine ⟨0, ?_, Faithful.refl 0⟩
      cases s <;> cases s' <;> exact place_pack_zero _
    | finite s' m' e' pos' => exact ⟨y, place_pack hv hy, Faithful.refl y⟩
  | finite s m e pos =>
    cases v with
    | notANumber => simp [placeOf] at hy
    | infinity s' =>
      rw [placeOf, Option.some.injEq] at hy
      cases s' <;> simp [← hy, Sign.apply] at hfinite'
    | zero s' =>
      obtain rfl : 0 = y := by simpa [placeOf] using hy
      rw [add_zero]
      exact ⟨x, place_pack hu hx, Faithful.refl x⟩
    | finite s' m' e' pos' =>
      rw [placeOf, Option.some.injEq] at hx hy
      have hleast : -1074 ≤ min e e' := le_min hu.1.least_le hv.1.least_le
      have hsum := place_pack_normalize (s.apply (decreaseExponent m e (min e e')).1
        + s'.apply (decreaseExponent m' e' (min e e')).1) hleast .positive
      rw [add_mul, apply_decreaseExponent s hleast (min_le_left _ _),
        apply_decreaseExponent s' hleast (min_le_right _ _), hx, hy] at hsum
      exact hsum

/-- An infinity takes the sum with all but the opposite one. -/
lemma place_pack_add_infinity {u : UnpackedFloat} {y : Int} (hy : placeOf u = some y) (s : Sign)
    (hopposite : y ≠ -s.apply unreached) :
    place (.ofModel (.pack (UnpackedFloat.add Format.binary64 (.infinity s) u)))
        = some (s.apply unreached) ∧
      place (.ofModel (.pack (UnpackedFloat.add Format.binary64 u (.infinity s))))
        = some (s.apply unreached) := by
  cases u with
  | notANumber => simp [placeOf] at hy
  | infinity s' =>
    rw [placeOf, Option.some.injEq] at hy
    cases s <;> cases s' <;> simp [← hy, Sign.apply] at hopposite <;>
      exact ⟨place_pack_infinity _, place_pack_infinity _⟩
  | zero s' => exact ⟨place_pack_infinity s, place_pack_infinity s⟩
  | finite s' m e pos => exact ⟨place_pack_infinity s, place_pack_infinity s⟩

/-! ## Differences -/

lemma neg_apply (s : Sign) (n : Int) : (-s).apply n = -s.apply n := by
  cases s
  · exact (neg_neg n).symm
  · rfl

/-- A difference is the sum with the negated number. -/
lemma sub_eq_add_neg (spec : Format) (u v : UnpackedFloat) :
    UnpackedFloat.sub spec u v = UnpackedFloat.add spec u v.neg := by
  cases u <;> cases v <;> try rfl
  simp only [UnpackedFloat.sub, UnpackedFloat.add, UnpackedFloat.neg, neg_apply,
    Int.sub_eq_add_neg]

lemma placeOf_neg {u : UnpackedFloat} {x : Int} (hx : placeOf u = some x) :
    placeOf u.neg = some (-x) := by
  cases u with
  | notANumber => simp [placeOf] at hx
  | infinity s =>
    rw [placeOf, Option.some.injEq] at hx
    rw [UnpackedFloat.neg, placeOf, neg_apply, hx]
  | zero s =>
    rw [placeOf, Option.some.injEq] at hx
    rw [UnpackedFloat.neg, placeOf, ← hx, neg_zero]
  | finite s m e pos =>
    rw [placeOf, Option.some.injEq] at hx
    rw [UnpackedFloat.neg, placeOf, neg_apply, hx]

lemma Fits.neg {u : UnpackedFloat} (h : Fits u) : Fits u.neg := by
  cases u <;> exact h

/-! ## The least sum -/

/-- What fits in place of an infinity is one. -/
lemma eq_infinity_of_placeOf {u : UnpackedFloat} (hu : Fits u) (hx : placeOf u = some ↑unreached) :
    u = .infinity .positive := by
  have hpos := unreached_pos
  cases u with
  | notANumber => simp [placeOf] at hx
  | infinity s =>
    rw [placeOf, Option.some.injEq] at hx
    cases s with
    | negative =>
      simp only [Sign.apply] at hx
      omega
    | positive => rfl
  | zero s =>
    rw [placeOf, Option.some.injEq] at hx
    omega
  | finite s m e pos =>
    have hlt := hu.1.units_lt_unreached hu.2
    rw [placeOf, Option.some.injEq] at hx
    cases s <;> simp only [Sign.apply] at hx <;> omega

/-- A sum without negative infinities is no less than any float below the exact sum. -/
lemma le_place_pack_add {u v : UnpackedFloat} {x y : Int} (hu : Fits u) (hv : Fits v)
    (hx : placeOf u = some x) (hy : placeOf v = some y)
    (hxtop : x.natAbs ≤ unreached) (hytop : y.natAbs ≤ unreached)
    (hxneg : -unreached < x) (hyneg : -unreached < y) :
    ∃ w, place (.ofModel (.pack (UnpackedFloat.add Format.binary64 u v))) = some w ∧
      ∀ {c : Float} {z : Int}, place c = some z → z ≤ x + y → z ≤ w := by
  have htop : ∀ {c : Float} {z : Int}, place c = some z → z ≤ unreached := fun hz => by
    have := (exists_canonical_of_place hz).1
    omega
  by_cases hxu : x = unreached
  · obtain rfl := eq_infinity_of_placeOf hu (hxu ▸ hx)
    refine ⟨unreached, (place_pack_add_infinity hy .positive ?_).1, fun hz _ => htop hz⟩
    simp only [Sign.apply]
    omega
  by_cases hyu : y = unreached
  · obtain rfl := eq_infinity_of_placeOf hv (hyu ▸ hy)
    refine ⟨unreached, (place_pack_add_infinity hx .positive ?_).2, fun hz _ => htop hz⟩
    simp only [Sign.apply]
    omega
  obtain ⟨w, hw, hfaithful⟩ := place_pack_add hu hv hx hy (by omega) (by omega)
  exact ⟨w, hw, hfaithful.le⟩

section Floats

variable {a b : Float} {x y : Int}

/-- A sum without negative infinities is no less than any float below the exact sum. -/
theorem le_place_add (hx : place a = some x) (hy : place b = some y) (hxneg : -unreached < x)
    (hyneg : -unreached < y) :
    ∃ w, place (a + b) = some w ∧
      ∀ {c : Float} {z : Int}, place c = some z → z ≤ x + y → z ≤ w :=
  le_place_pack_add (unpack_fits _) (unpack_fits _) hx hy (exists_canonical_of_place hx).1
    (exists_canonical_of_place hy).1 hxneg hyneg

/-- The same for a difference, where it is a positive infinity that must not be taken away. -/
theorem le_place_sub (hx : place a = some x) (hy : place b = some y) (hxneg : -unreached < x)
    (hylt : y < unreached) :
    ∃ w, place (a - b) = some w ∧
      ∀ {c : Float} {z : Int}, place c = some z → z ≤ x - y → z ≤ w := by
  have hsub : a - b = .ofModel (.pack
      (UnpackedFloat.add Format.binary64 a.toModel.unpack b.toModel.unpack.neg)) := by
    rw [← sub_eq_add_neg]
    rfl
  rw [hsub]
  refine le_place_pack_add (unpack_fits _) (unpack_fits _).neg hx (placeOf_neg hy)
    (exists_canonical_of_place hx).1 ?_ hxneg (by omega)
  rw [Int.natAbs_neg]
  exact (exists_canonical_of_place hy).1

/-- Nothing is rounded when zero is added. -/
theorem place_add_zero (a : Float) : place (a + 0) = place a := by
  have hzero : (0 : Float).toModel.unpack = .zero .positive := by rfl
  have hadd : a + 0 = .ofModel (.pack
      (UnpackedFloat.add Format.binary64 a.toModel.unpack (.zero .positive))) := by
    rw [← hzero]
    rfl
  have hfits : Fits a.toModel.unpack := unpack_fits _
  rw [hadd, place.eq_1 a]
  generalize a.toModel.unpack = u at hfits
  cases u with
  | notANumber => decide
  | infinity s => exact place_pack_infinity s
  | zero s => cases s <;> exact place_pack_zero _
  | finite s m e pos => exact place_pack hfits rfl

end Floats

/-! ## What is a number -/

/-- What is a number stays one when it is packed. -/
lemma place_pack_ne_none {u : UnpackedFloat} (h : u.isNaN = false) :
    place (.ofModel (.pack u)) ≠ none := by
  cases u with
  | notANumber => cases h
  | infinity s => simp [place_pack_infinity]
  | zero s => simp [place_pack_zero]
  | finite s m e pos =>
    show placeOf (UnpackedFloat.unpack .binary64 (UnpackedFloat.pack .binary64 _)) ≠ none
    unfold UnpackedFloat.pack
    simp only [binary64_bias]
    split_ifs with htop hnormal
    · simp [packedInfinity, placeOf_unpack_packComponents]
    · rw [placeOf_unpack_packComponents, if_neg]
      · split_ifs <;> simp
      · intro hones
        have hx := congrArg BitVec.toNat hones
        rw [BitVec.toNat_ofNat, show (-1#11).toNat = 2047 by decide] at hx
        omega
    · simp [placeOf_unpack_packComponents]

lemma place_ne_none_iff {x : Float} : place x ≠ none ↔ x.toModel.unpack.isNaN = false := by
  unfold place
  cases x.toModel.unpack <;> simp [placeOf, UnpackedFloat.isNaN]

lemma isNaN_roundWithAccuracy (s : Sign) (m : Nat) (e : Int) (accuracy : Accuracy) :
    (roundWithAccuracy Format.binary64 s m e accuracy).isNaN = false := by
  simp only [roundWithAccuracy]
  split <;> rfl

lemma isNaN_normalize (n : Int) (e : Int) (s : Sign) :
    (UnpackedFloat.normalize Format.binary64 n e s).isNaN = false := by
  unfold UnpackedFloat.normalize
  split
  · exact isNaN_roundWithAccuracy ..
  · rfl
  · exact isNaN_roundWithAccuracy ..

lemma isNaN_neg (u : UnpackedFloat) : u.neg.isNaN = u.isNaN := by
  cases u <;> rfl

/-- A product with a finite factor is a number if the other one is. -/
lemma isNaN_mul_finite {u : UnpackedFloat} (h : u.isNaN = false) (s : Sign) (m : Nat) (e : Int)
    (pos : 0 < m) : (UnpackedFloat.mul Format.binary64 u (.finite s m e pos)).isNaN = false := by
  cases u with
  | notANumber => cases h
  | finite s' m' e' pos' => exact isNaN_roundWithAccuracy ..
  | _ => rfl

/-- Natural numbers are read as numbers. -/
lemma place_ofScientific_ne_none (n : Nat) : place (Float.ofScientific n false 0) ≠ none := by
  unfold Float.ofScientific
  simp only [Bool.false_eq_true, if_false]
  split_ifs with hsmall
  · have hn : n.toUInt64.toFloat.toModel.unpack.isNaN = false := by
      rw [← place_ne_none_iff]
      exact place_pack_ne_none (isNaN_normalize ..)
    have hone : Float.exactlyRepresentablePowersOfTen[0].toModel.unpack
        = .finite .positive (2 ^ 52) (-52) (by decide) := by rfl
    refine place_pack_ne_none ?_
    rw [hone]
    exact isNaN_mul_finite hn ..
  · refine place_pack_ne_none ?_
    show (UnpackedFloat.ofScientific Format.binary64 n 0).isNaN = false
    unfold UnpackedFloat.ofScientific
    split_ifs with hzero hbig hsmall' hnonneg
    · rfl
    · rfl
    · rfl
    · exact isNaN_mul_finite rfl ..
    · exact absurd le_rfl hnonneg

/-- So are integers. -/
lemma place_ofInt?_ne_none {n : Int} {x : Float} (h : ofInt? n = some x) : place x ≠ none := by
  unfold ofInt? at h
  have hmagnitude := place_ofScientific_ne_none n.natAbs
  simp only at h
  split_ifs at h with hinf hneg
  · obtain rfl := Option.some.inj h
    refine place_pack_ne_none ?_
    rw [isNaN_neg]
    exact place_ne_none_iff.mp hmagnitude
  · obtain rfl := Option.some.inj h
    exact hmagnitude

end SnippetRunner.Number
