import Mathlib.Data.EReal.Basic
import SnippetRunner.Data
import SnippetRunner.Proofs.Number.FloatOrder

/-!
# Numbers by their amounts

Integers and floats are compared exactly. A number has an amount, which is a real number or an
infinity, and none if it is no number at all; two numbers compare as their amounts do
(`compare?_eq_lt_iff`), and a value is told to be positive by its amount (`notPositive_eq_false_iff`).
-/

namespace SnippetRunner

open Number Float.Model Float.Model.UnpackedFloat

/-! ## Amounts -/

/-- The amount of a float that is taken apart. -/
noncomputable def Number.Dyadic.amount? : Dyadic → Option EReal
  | .nan => none
  | .infinite negative => some (if negative then ⊥ else ⊤)
  | .finite negative m q => some ((signed negative m * 2 ^ q : ℝ) : EReal)

/-- The amount of a number. -/
noncomputable def Data.Numeric.amount? : Data.Numeric → Option EReal
  | .int n => some ((n : ℝ) : EReal)
  | .float x => (Dyadic.ofFloat x).amount?

/-- The amount of a value, if it is a number. -/
noncomputable def Data.amount? (v : Data) : Option EReal := v.numeric?.bind (·.amount?)

/-! ## Floats taken apart -/

namespace Number

/-- The place of a float that is taken apart. -/
def Dyadic.place? : Dyadic → Option Int
  | .nan => none
  | .infinite negative => some (signed negative unreached)
  | .finite negative m q => some (signed negative (units m q))

lemma Sign.apply_ofBitVec (b : BitVec 1) (n : Nat) :
    (Sign.ofBitVec b).apply n = signed (b.toNat == 1) n := by
  rcases BitVec.eq_zero_or_eq_one b with rfl | rfl <;> rfl

section Bits

variable (b : BitVec Format.binary64.numBits)

lemma toNat_unpackMantissa : (unpackMantissa b).toNat = b.toNat % twoTo 52 := by
  rw [unpackMantissa, BitVec.toNat_cast, BitVec.extractLsb_toNat, Nat.shiftRight_zero]
  rfl

lemma toNat_unpackExponent : (unpackExponent b).toNat = b.toNat / twoTo 52 % 2048 := by
  rw [unpackExponent, BitVec.toNat_cast, BitVec.extractLsb_toNat, Nat.shiftRight_eq_div_pow]
  rfl

lemma toNat_unpackSign : (unpackSign b).toNat = b.toNat / twoTo 63 := by
  have hlt : b.toNat < 2 ^ 64 := b.isLt
  rw [unpackSign, BitVec.toNat_cast, BitVec.extractLsb_toNat, Nat.shiftRight_eq_div_pow]
  have hsmall : b.toNat / 2 ^ 63 < 2 := by omega
  exact Nat.mod_eq_of_lt hsmall

end Bits

/-- A float taken apart is where the float is. -/
lemma place_eq (x : Float) : place x = (Dyadic.ofFloat x).place? := by
  have htop : ∀ v : BitVec 11, v = -1#11 ↔ v.toNat = 2047 := fun v => by
    rw [← BitVec.toNat_inj]
    rfl
  have hbits : x.toBits.toNat = x.toModel.toBits.toBitVec.toNat := rfl
  rw [place, Float.Model.unpack]
  obtain ⟨b, hb⟩ : ∃ b : BitVec Format.binary64.numBits, x.toModel.toBits.toBitVec = b := ⟨_, rfl⟩
  rw [hb] at hbits ⊢
  unfold Dyadic.ofFloat UnpackedFloat.unpack
  simp only [hbits, ← toNat_unpackMantissa, ← toNat_unpackExponent, ← toNat_unpackSign, binary64_bias]
  by_cases hinfinite : unpackExponent b = -1#11
  · rw [if_pos hinfinite, if_pos ((htop _).mp hinfinite)]
    by_cases hzero : unpackMantissa b = 0#52
    · rw [if_pos hzero, if_pos (by rw [hzero]; rfl), placeOf, Dyadic.place?, Sign.apply_ofBitVec]
    · have hne : (unpackMantissa b).toNat ≠ 0 := fun h => hzero (BitVec.eq_of_toNat_eq h)
      rw [if_neg hzero, if_neg hne]
      rfl
  · rw [if_neg hinfinite, if_neg (mt (htop _).mpr hinfinite)]
    by_cases hsmall : unpackExponent b = 0#11
    · rw [if_pos hsmall, if_pos (by rw [hsmall]; rfl)]
      by_cases hzero : unpackMantissa b = 0#52
      · rw [dif_pos hzero, Dyadic.place?, hzero]
        simp [placeOf, units, signed]
      · rw [dif_neg hzero, placeOf, Dyadic.place?, Sign.apply_ofBitVec, hsmall]
        rfl
    · have hne : (unpackExponent b).toNat ≠ 0 := fun h => hsmall (BitVec.eq_of_toNat_eq h)
      rw [if_neg hsmall, if_neg hne, placeOf, Dyadic.place?, Sign.apply_ofBitVec,
        toNat_implicit_append, Nat.add_comm]
      rfl

/-- Parts as a float has them. -/
def Dyadic.Fits : Dyadic → Prop
  | .finite _ m q => -1074 ≤ q ∧ units m q < unreached
  | _ => True

lemma Dyadic.fits_ofFloat (x : Float) : (Dyadic.ofFloat x).Fits := by
  rcases h : Dyadic.ofFloat x with _ | negative | ⟨negative, m, q⟩
  · trivial
  · trivial
  · have htwo : twoTo 52 = 2 ^ 52 := rfl
    have hm : x.toBits.toNat % twoTo 52 < 2 ^ 52 := Nat.mod_lt _ (by decide)
    have hbiased : x.toBits.toNat / twoTo 52 % 2048 < 2048 := Nat.mod_lt _ (by decide)
    have hparts : -1074 ≤ q ∧ q ≤ 971 ∧ m < 2 ^ 53 := by
      unfold Dyadic.ofFloat at h
      dsimp only at h
      split_ifs at h with htop hzero hsmall
      all_goals
        rw [Dyadic.finite.injEq] at h
        omega
    obtain ⟨hleast, hq, hm⟩ := hparts
    refine ⟨hleast, ?_⟩
    calc m * 2 ^ (q + 1074).toNat
        < 2 ^ 53 * 2 ^ (q + 1074).toNat := Nat.mul_lt_mul_of_pos_right hm (by positivity)
      _ ≤ 2 ^ 53 * 2 ^ 2045 := Nat.mul_le_mul_left _ (Nat.pow_le_pow_right (by decide) (by omega))
      _ = 2 ^ 52 * 2 ^ 2046 := by rw [← pow_add, ← pow_add]
      _ = unreached := by
        rw [unreached, units, topExponent_eq, show ((972 : Int) + 1074).toNat = 2046 by decide]

/-- The amount of a finite float is its place in units of the least positive float. -/
lemma amount_eq_place (negative : Bool) (m : Nat) {q : Int} (hleast : -1074 ≤ q) :
    (signed negative m * 2 ^ q : ℝ) = signed negative (units m q) / 2 ^ 1074 := by
  have hpower : (2 : ℝ) ^ q = 2 ^ (q + 1074).toNat / 2 ^ 1074 := by
    rw [← zpow_natCast, ← zpow_natCast, Int.toNat_of_nonneg (by omega), ← zpow_sub₀ two_ne_zero]
    congr 1
    omega
  cases negative <;> simp [signed, units, hpower, mul_div_assoc, neg_div]

/-- The amount at a place. -/
noncomputable def amountAt (z : Int) : EReal :=
  if z = unreached then ⊤ else if z = -unreached then ⊥ else ((z / 2 ^ 1074 : ℝ) : EReal)

lemma amountAt_strictMonoOn : StrictMonoOn amountAt {z | z.natAbs ≤ unreached} := by
  intro x hx y hy hlt
  rw [Set.mem_ofPred_eq] at hx hy
  have hxtop : x ≠ unreached := by omega
  have hybot : y ≠ -unreached := by omega
  unfold amountAt
  rw [if_neg hxtop, if_neg hybot]
  split_ifs
  · exact bot_lt_top
  · exact EReal.bot_lt_coe _
  · exact EReal.coe_lt_top _
  · rw [EReal.coe_lt_coe_iff]
    exact div_lt_div_of_pos_right (by exact_mod_cast hlt) (by positivity)

/-- A float that is taken apart has the amount at its place. -/
lemma Dyadic.amount?_eq {u : Dyadic} (hu : u.Fits) :
    u.amount? = u.place?.map amountAt ∧ ∀ z, u.place? = some z → z.natAbs ≤ unreached := by
  have hpos := unreached_pos
  cases u with
  | nan => simp [amount?, place?]
  | infinite negative =>
    have hne : -(unreached : Int) ≠ unreached := by omega
    cases negative <;> simp [amount?, place?, signed, amountAt, hne]
  | finite negative m q =>
    obtain ⟨hleast, hlt⟩ := hu
    have hbounds : (signed negative (units m q)).natAbs < unreached := by
      cases negative <;> simpa [signed] using hlt
    refine ⟨?_, fun z hz => ?_⟩
    · rw [amount?, amount_eq_place negative m hleast, place?, Option.map_some, amountAt,
        if_neg (by omega), if_neg (by omega)]
    · rw [place?, Option.some.injEq] at hz
      omega

/-- Floats are in the order of their amounts. -/
theorem lt_iff_amount {a b : Float} :
    a < b ↔ ∃ x y, (Dyadic.ofFloat a).amount? = some x ∧ (Dyadic.ofFloat b).amount? = some y ∧
      x < y := by
  obtain ⟨ha, hina⟩ := (Dyadic.ofFloat a).amount?_eq (Dyadic.fits_ofFloat a)
  obtain ⟨hb, hinb⟩ := (Dyadic.ofFloat b).amount?_eq (Dyadic.fits_ofFloat b)
  rw [lt_iff_place, place_eq, place_eq, ha, hb]
  constructor
  · rintro ⟨x, y, hx, hy, hlt⟩
    refine ⟨amountAt x, amountAt y, by rw [hx]; rfl, by rw [hy]; rfl, ?_⟩
    exact amountAt_strictMonoOn (hina x hx) (hinb y hy) hlt
  · rintro ⟨x', y', hx', hy', hlt⟩
    obtain ⟨x, hx, rfl⟩ := Option.map_eq_some_iff.mp hx'
    obtain ⟨y, hy, rfl⟩ := Option.map_eq_some_iff.mp hy'
    exact ⟨x, y, hx, hy, (amountAt_strictMonoOn.lt_iff_lt (hina x hx) (hinb y hy)).mp hlt⟩

lemma quotientOf_eq (m : Nat) (q : Int) :
    0 < (quotientOf m q).2 ∧ ((quotientOf m q).1 : ℝ) / (quotientOf m q).2 = m * 2 ^ q := by
  have htwo : ∀ k, twoTo k = 2 ^ k := fun _ => rfl
  unfold quotientOf
  split_ifs with hq
  · refine ⟨Nat.one_pos, ?_⟩
    have hpower : (2 : ℝ) ^ q = 2 ^ q.toNat := by
      rw [← zpow_natCast, Int.toNat_of_nonneg hq]
    rw [hpower, htwo]
    push_cast
    rw [div_one]
  · refine ⟨Nat.two_pow_pos _, ?_⟩
    have hpower : (2 : ℝ) ^ q = (2 ^ (-q).toNat)⁻¹ := by
      rw [← zpow_natCast, Int.toNat_of_nonneg (by omega), zpow_neg, inv_inv]
    rw [hpower, htwo]
    push_cast
    rw [div_eq_mul_inv]

/-- An integer and a float are in the order of their amounts. -/
lemma compareInt_eq (n : Int) (x : Float) :
    compareInt n x = (Dyadic.ofFloat x).amount?.map (compare ((n : ℝ) : EReal)) := by
  unfold compareInt
  rcases Dyadic.ofFloat x with _ | negative | ⟨negative, m, q⟩
  · rfl
  · cases negative
    · exact congrArg some (compare_lt_iff_lt.mpr (EReal.coe_lt_top _)).symm
    · exact congrArg some (compare_gt_iff_gt.mpr (EReal.bot_lt_coe _)).symm
  · obtain ⟨hden, hquotient⟩ := quotientOf_eq m q
    dsimp only
    generalize quotientOf m q = quotient at hden hquotient ⊢
    obtain ⟨num, den⟩ := quotient
    have hden' : (0 : ℝ) < den := by exact_mod_cast hden
    -- both sides are divided by the denominator
    have hmono : StrictMono fun z : Int => ((z / den : ℝ) : EReal) := by
      intro a b hab
      rw [EReal.coe_lt_coe_iff]
      exact div_lt_div_of_pos_right (by exact_mod_cast hab) hden'
    have hleft : ((n * den : Int) / den : ℝ) = n := by
      push_cast
      exact mul_div_cancel_right₀ _ hden'.ne'
    have hright : (signed negative num / den : ℝ) = signed negative m * 2 ^ q := by
      cases negative <;> simp only [signed] <;> push_cast
      · simpa using hquotient
      · simpa [neg_div] using hquotient
    rw [Dyadic.amount?, Option.map_some]
    have hcompare := hmono.cmp_map_eq (n * den) (signed negative num)
    simp only [cmp_eq_compare] at hcompare
    rw [← hcompare]
    simp only [hright]
    rw [hleft]

end Number

/-! ## Values -/

namespace Data

namespace Numeric

variable {a b : Numeric}

/-- A number is compared with an integer by its amount. -/
lemma compare?_int (a : Numeric) (n : Int) :
    a.compare? (.int n) = a.amount?.map fun x => compare x ((n : ℝ) : EReal) := by
  cases a with
  | int m =>
    have hmono : StrictMono fun z : Int => ((z : ℝ) : EReal) := fun a b hab => by
      rw [EReal.coe_lt_coe_iff]
      exact_mod_cast hab
    have hcompare := hmono.cmp_map_eq m n
    simp only [cmp_eq_compare] at hcompare
    rw [compare?, amount?, Option.map_some, hcompare]
  | float x =>
    rw [compare?, amount?, compareInt_eq, Option.map_map]
    congr 1
    funext y
    simp only [Function.comp_apply, ← cmp_eq_compare, cmp_swap]

lemma int_compare? (n : Int) (b : Numeric) :
    (Numeric.int n).compare? b = b.amount?.map fun y => compare ((n : ℝ) : EReal) y := by
  cases b with
  | int m => rw [compare?_int, amount?, amount?, Option.map_some, Option.map_some]
  | float y => rw [compare?, amount?, compareInt_eq]

/-- A number is less than another one if its amount is. -/
lemma compare?_eq_lt_iff :
    a.compare? b = some .lt ↔ ∃ x y, a.amount? = some x ∧ b.amount? = some y ∧ x < y := by
  cases b with
  | int n =>
    rw [compare?_int, Option.map_eq_some_iff]
    simp [compare_lt_iff_lt, amount?]
  | float y =>
    cases a with
    | int n =>
      rw [int_compare?, Option.map_eq_some_iff]
      simp [compare_lt_iff_lt, amount?]
    | float x =>
      rw [compare?, amount?, amount?, ← lt_iff_amount]
      split_ifs with hlt
      all_goals simp [hlt]

end Numeric

variable {v w : Data} {a b : Numeric} {problem : Problem}

/-- A number that is not told to be zero or below has a positive amount, if it has any. -/
lemma notPositive_eq_false_iff :
    v.notPositive = .ok false ↔ ∃ a, v.numeric? = some a ∧ ∀ x, a.amount? = some x → 0 < x := by
  unfold notPositive compared
  cases v.numeric? with
  | none => simp
  | some a =>
    have hzero : ((((0 : Int) : ℝ)) : EReal) = 0 := by norm_num
    simp only [numeric?, Numeric.compare?_int, hzero, Option.some.injEq, exists_eq_left', Except.ok.injEq]
    cases a.amount? with
    | none => simp
    | some x => simp [compare_gt_iff_gt]

/-- Only a value that is no number is not compared with zero. -/
lemma notPositive_eq_error_iff :
    v.notPositive = .error problem ↔
      v.numeric? = none ∧ problem = orderless "<=" v (.int 0) := by
  unfold notPositive compared
  cases v.numeric? with
  | none => simp [eq_comm]
  | some a => simp [numeric?]

/-- Beside a number only numbers are compared. -/
lemma less_eq_compared (hw : w.numeric? = some b) : v.less w = compared "<" (· == .lt) v w := by
  cases w <;> cases hw <;> cases v <;> rfl

/-- A number is less than another one if its amount is. -/
lemma less_of_numeric (hv : v.numeric? = some a) (hw : w.numeric? = some b) :
    ∃ answer, v.less w = .ok answer ∧
      (answer = true ↔ ∃ x y, a.amount? = some x ∧ b.amount? = some y ∧ x < y) := by
  refine ⟨_, by rw [less_eq_compared hw, compared, hv, hw], ?_⟩
  rw [← Numeric.compare?_eq_lt_iff]
  simp [Option.any_eq_true]

lemma less_eq_error_iff (hw : w.numeric? = some b) :
    v.less w = .error problem ↔ v.numeric? = none ∧ problem = orderless "<" v w := by
  rw [less_eq_compared hw, compared, hw]
  cases v.numeric? with
  | none => simp [eq_comm]
  | some a => simp

lemma less_self (hv : v.numeric? = some a) : v.less v = .ok false := by
  obtain ⟨answer, hless, hiff⟩ := less_of_numeric hv hv
  cases answer with
  | false => exact hless
  | true =>
    obtain ⟨x, y, hx, hy, hlt⟩ := hiff.mp rfl
    rw [hx, Option.some.injEq] at hy
    exact absurd hlt (by simp [hy])

/-- What is compared with a number is a number. -/
lemma numeric_of_less {answer : Bool} (hw : w.numeric? = some b) (hless : v.less w = .ok answer) :
    ∃ a, v.numeric? = some a := by
  rw [less_eq_compared hw, compared, hw] at hless
  cases hv : v.numeric? with
  | none =>
    rw [hv] at hless
    cases hless
  | some a => exact ⟨a, rfl⟩

end Data

end SnippetRunner
