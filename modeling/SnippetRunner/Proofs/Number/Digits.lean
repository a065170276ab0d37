import Mathlib.Data.List.DropRight
import Mathlib.Tactic.IntervalCases
import SnippetRunner.Number.Reading

/-!
# Numbers in digits of one byte

Among the characters of one byte only the ASCII digits are decimal ones, so that a text of such
characters is read as it stands. The raised digits of the Latin letters make no number.

* `Text.decimalValue?_of_byte` says which characters of one byte are decimal digits.
* `Number.trimmed_of_plain` says that reading starts from the characters as they are.
* `Number.readInt_of_digits` says what a text of digits is read as.
-/

namespace SnippetRunner

open Text

/-! ## The characters -/

namespace Text

/-- Below all intervals but the first one, the search finds the first one or none. -/
lemma findRange?_first {bounds : Array (Nat × Nat)} {n a b : Nat} (hfirst : bounds[0]? = some (a, b))
    (hrest : ∀ r ∈ bounds.toList.drop 1, n < r.1) (hi : Nat) (hpos : 0 < hi)
    (hsize : hi ≤ bounds.size) :
    findRange? bounds n 0 hi = if a ≤ n ∧ n ≤ b then some (a, b) else none := by
  -- the search halves what is left of the table until only its first interval is left
  induction hi using Nat.strong_induction_on with
  | _ hi ih =>
    unfold findRange?
    rw [if_pos hpos]
    rcases hmid : (0 + hi) / 2 with _ | mid
    · obtain rfl : hi = 1 := by omega
      have hleft : findRange? bounds n 0 0 = none := by
        unfold findRange?
        rfl
      have hright : findRange? bounds n (0 + 1) 1 = none := by
        unfold findRange?
        rfl
      simp only [hfirst, hleft, hright]
      split_ifs <;> first | rfl | omega
    · have hlt : mid + 1 < bounds.size := by omega
      have hbelow : n < bounds[mid + 1].1 := by
        refine hrest _ (List.mem_iff_getElem.mpr ⟨mid, by simp; omega, ?_⟩)
        simp
      simp only [Array.getElem?_eq_getElem hlt]
      rw [if_pos hbelow]
      exact ih (mid + 1) (by omega) (by omega) (by omega)

lemma decimalZeros_first : decimalZeros.bounds[0]? = some (0x30, 0x39) ∧
    ∀ r ∈ decimalZeros.bounds.toList.drop 1, 256 ≤ r.1 := by
  simp only [decimalZeros, CodeRanges.ofLines, List.flatMap_cons, List.flatMap_nil]
  -- a literal's characters are taken from the literal, and not decoded from its bytes
  iterate 8 rw [String.toList_ofList]
  decide

lemma isDigit_iff {c : Char} : c.isDigit = true ↔ 0x30 ≤ c.toNat ∧ c.toNat ≤ 0x39 := by
  simp [Char.isDigit, UInt32.le_iff_toNat_le]

/-- Of the characters of one byte, the ASCII digits are the decimal ones. -/
lemma decimalValue?_of_byte {c : Char} (hbyte : c.toNat < 256) :
    decimalValue? c = if c.isDigit then some (c.toNat - '0'.toNat) else none := by
  obtain ⟨hfirst, hrest⟩ := decimalZeros_first
  have hpos : 0 < decimalZeros.bounds.size := by
    by_contra hempty
    rw [Array.getElem?_eq_none (by omega)] at hfirst
    cases hfirst
  rw [decimalValue?, findRange?_first hfirst (fun r hr => hbyte.trans_le (hrest r hr)) _ hpos le_rfl]
  by_cases hdigit : c.isDigit
  · rw [if_pos hdigit, if_pos (isDigit_iff.mp hdigit)]
    rfl
  · rw [if_neg hdigit, if_neg fun h => hdigit (isDigit_iff.mpr h)]
    rfl

/-- A small raised digit of the Latin letters. -/
def IsRaised (c : Char) : Prop := c = '\xb9' ∨ c = '\xb2' ∨ c = '\xb3'

lemma IsRaised.not_isDigit {c : Char} (raised : IsRaised c) : c.isDigit = false := by
  rcases raised with rfl | rfl | rfl <;> decide

end Text

/-! ## Texts without blanks -/

namespace Number

variable {c : Char} {cs : List Char}

/-- A character of one byte that is no blank. -/
def isPlain (c : Char) : Bool := c.toNat < 256 && ! isBlank c && ! isAsciiBlank c

lemma isPlain_eq_true_iff :
    isPlain c = true ↔ c.toNat < 256 ∧ isBlank c = false ∧ isAsciiBlank c = false := by
  simp [isPlain, and_assoc]

lemma asciiDigits_of_bytes (bytes : ∀ c ∈ cs, c.toNat < 256) : asciiDigits cs = cs := by
  refine (List.map_congr_left fun c hc => ?_).trans (List.map_id cs)
  rw [decimalValue?_of_byte (bytes c hc)]
  by_cases hdigit : c.isDigit
  · have hfrom : '0'.toNat ≤ c.toNat := (Text.isDigit_iff.mp hdigit).1
    simp only [hdigit, if_true, Nat.add_sub_cancel' hfrom, Char.ofNat_toNat, id]
  · simp only [hdigit, Bool.false_eq_true, if_false, id]

/-- Of such a text nothing is trimmed, and its digits stay as they are. -/
lemma trimmed_of_plain {s : String} (plain : s.toList.all isPlain = true) :
    trimmed s = s.toList := by
  have hplain := fun c hc => isPlain_eq_true_iff.mp (List.all_eq_true.mp plain c hc)
  have hkept : ∀ blank : Char → Bool, (∀ c ∈ s.toList, blank c = false) →
      stripWhere blank s = s := by
    intro blank hblank
    have hleading : dropLeading blank s.toList = s.toList :=
      List.dropWhile_eq_self_iff.mpr fun hlt => by simp [hblank _ (List.getElem_mem hlt)]
    have htrailing : dropTrailing blank s.toList = s.toList :=
      List.rdropWhile_eq_self_iff.mpr fun hne => by simp [hblank _ (List.getLast_mem hne)]
    rw [stripWhere, hleading, htrailing, String.ofList_toList]
  have hdigits := asciiDigits_of_bytes fun c hc => (hplain c hc).1
  rw [trimmed]
  split_ifs
  · rw [hkept _ fun c hc => (hplain c hc).2.2, hdigits]
  · rw [hkept _ fun c hc => (hplain c hc).2.1, hdigits]

/-! ## Texts of digits -/

lemma containsCode_of_digit (n : Nat) (hfrom : 0x30 ≤ n) (hto : n ≤ 0x39) :
    blankRanges.containsCode n = false := by
  interval_cases n <;> cbv

lemma isPlain_of_digit (digit : c.isDigit ∨ IsRaised c) : isPlain c = true := by
  rcases digit with hdigit | rfl | rfl | rfl
  · obtain ⟨hfrom, hto⟩ := Text.isDigit_iff.mp hdigit
    refine isPlain_eq_true_iff.mpr ⟨by omega, containsCode_of_digit _ hfrom hto, ?_⟩
    by_contra hblank
    simp only [isAsciiBlank, Bool.not_eq_false, Bool.or_eq_true, beq_iff_eq] at hblank
    rcases hblank with ((((rfl | rfl) | rfl) | rfl) | rfl) | rfl <;> exact absurd hdigit (by decide)
  all_goals cbv

lemma byte_of_digit (digit : c.isDigit ∨ IsRaised c) : c.toNat < 256 :=
  (isPlain_eq_true_iff.mp (isPlain_of_digit digit)).1

lemma trimmed_of_digits {s : String} (digits : ∀ c ∈ s.toList, c.isDigit ∨ IsRaised c) :
    trimmed s = s.toList :=
  trimmed_of_plain (List.all_eq_true.mpr fun c hc => isPlain_of_digit (digits c hc))

lemma readSign_of_digits (digits : ∀ c ∈ cs, c.isDigit ∨ IsRaised c) :
    readSign cs = (false, cs) := by
  unfold readSign
  split
  · exact absurd (digits '-' (by simp)) (by simp [IsRaised])
  · exact absurd (digits '+' (by simp)) (by simp [IsRaised])
  · rfl

/-- Decimal digits are read whole. -/
lemma plainDigits?_of_digits (digits : ∀ c ∈ cs, c.isDigit) (after : Bool)
    (some_digit : cs ≠ [] ∨ after) : plainDigits? after cs = some cs := by
  induction cs generalizing after with
  | nil =>
    obtain rfl : after = true := by simpa using some_digit
    rfl
  | cons c rest ih =>
    have hc : c.isDigit = true := digits c (by simp)
    unfold plainDigits?
    rw [if_pos hc, ih (fun d hd => digits d (by simp [hd])) true (by simp)]
    rfl

/-- A raised digit among them cannot be read. -/
lemma plainDigits?_of_raised (digits : ∀ c ∈ cs, c.isDigit ∨ IsRaised c)
    (raised : ∃ c ∈ cs, IsRaised c) (after : Bool) : plainDigits? after cs = none := by
  induction cs generalizing after with
  | nil => simp at raised
  | cons c rest ih =>
    by_cases hc : c.isDigit
    · have hrest : ∃ d ∈ rest, IsRaised d := by
        obtain ⟨d, hd, hraised⟩ := raised
        rcases List.mem_cons.mp hd with rfl | hd
        · rw [hraised.not_isDigit] at hc
          cases hc
        · exact ⟨d, hd, hraised⟩
      unfold plainDigits?
      rw [if_pos hc, ih (fun d hd => digits d (by simp [hd])) hrest]
      rfl
    · have hunderscore : c ≠ '_' := by
        rintro rfl
        exact absurd (digits '_' (by simp)) (by simp [IsRaised])
      unfold plainDigits?
      simp [hc, hunderscore]

/-- What a text of decimal digits is read as. -/
lemma readInt_of_digits {s : String} (hne : s ≠ "") (digits : ∀ c ∈ s.toList, c.isDigit) :
    readInt s = if digitLimit < s.length then .error (.tooLong s.length)
      else .ok (digitsValue s.toList) := by
  have hdigits : ∀ c ∈ s.toList, c.isDigit ∨ IsRaised c := fun c hc => Or.inl (digits c hc)
  have hplain : plainDigits? false s.toList = some s.toList :=
    plainDigits?_of_digits digits false (Or.inl (by simpa using hne))
  simp only [readInt, trimmed_of_digits hdigits, readSign_of_digits hdigits, hplain,
    String.length_toList, signed]
  rfl

lemma readInt_of_raised {s : String} (digits : ∀ c ∈ s.toList, c.isDigit ∨ IsRaised c)
    (raised : ∃ c ∈ s.toList, IsRaised c) : readInt s = .error .malformed := by
  simp only [readInt, trimmed_of_digits digits, readSign_of_digits digits,
    plainDigits?_of_raised digits raised]

end Number

end SnippetRunner
