import Mathlib.Algebra.Ring.Nat
import Mathlib.Tactic.Lemma
import SnippetRunner.Capture.Buffer

/-!
# What a buffer shows

A buffer with a whole number of characters to take shows what was written to it: all of it if it
fits, and otherwise its first characters and the marker. How the output was cut into fragments
does not matter.

`Buffer.Took` is what is known of a buffer after some texts; `Took.append` is one more of them.
-/

namespace SnippetRunner.Capture

/-- What is shown of an output when at most `n` characters of it are taken. -/
def clipped (n : Nat) (output : String) : String :=
  if output.length ≤ n then output
  else String.ofList (output.toList.take n) ++ truncationMarker

/-- A buffer for `n` characters that has taken some texts, one after another. -/
structure Buffer.Took (b : Buffer) (n : Nat) (texts : List String) : Prop where
  cap : b.cap = .whole n
  truncated : b.truncated = decide (n < (String.join texts).length)
  size : b.truncated = false → b.size = (String.join texts).length
  fragments : ∃ parts : List String, b.fragments.toList = parts.map .text ∧
    String.join parts = clipped n (String.join texts)

variable {b : Buffer} {n : Nat} {texts : List String} {s : String}

/-- What comes after the cut is not shown. -/
lemma clipped_append_of_lt {output : String} (hlt : n < output.length) :
    clipped n (output ++ s) = clipped n output := by
  have hle : n ≤ output.toList.length := by
    rw [String.length_toList]
    exact Nat.le_of_lt hlt
  rw [clipped, clipped, if_neg (by rw [String.length_append]; omega), if_neg (by omega),
    String.toList_append, List.take_append_of_le_length hle]

/-- The text that passes the room is shown up to it. -/
lemma clipped_append_of_le {output : String} (hle : output.length ≤ n)
    (hlt : n < (output ++ s).length) :
    clipped n (output ++ s)
      = output ++ String.ofList (s.toList.take (n - output.length)) ++ truncationMarker := by
  have htake : (output.toList).take n = output.toList :=
    List.take_of_length_le (by rwa [String.length_toList])
  rw [clipped, if_neg (by omega), String.toList_append, List.take_append, htake,
    String.length_toList, String.ofList_append, String.ofList_toList]

/-- A new buffer has taken nothing. -/
lemma Buffer.Took.new (n : Nat) : ({ cap := .whole n } : Buffer).Took n [] where
  cap := rfl
  truncated := by simp
  size := fun _ => by simp
  fragments := ⟨[], rfl, by simp [clipped]⟩

private lemma append_of_fits (took : b.Took n texts) (hfull : b.truncated = false)
    (hfits : (String.join texts ++ s).length ≤ n) :
    ∃ b', b.append (.text s) = .ok b' ∧ b'.Took n (texts ++ [s]) := by
  have hsize := took.size hfull
  rw [String.length_append] at hfits
  have hroom : b.overflows (Fragment.text s).length = false := by
    simp only [Buffer.overflows, took.cap, Fragment.length, hsize, decide_eq_false_iff_not]
    omega
  obtain ⟨parts, hparts, hjoin⟩ := took.fragments
  refine ⟨{ b with fragments := b.fragments.push (.text s), size := b.size + s.length },
    by rw [Buffer.append, hfull, hroom]; rfl, took.cap, ?_, fun _ => ?_, ?_⟩
  · simp only [String.join_append, String.length_append]
    rw [hfull, eq_comm, decide_eq_false_iff_not]
    simp only [String.join_cons, String.join_nil, String.append_empty]
    omega
  · simp [hsize]
  · refine ⟨parts ++ [s], by simp [hparts], ?_⟩
    rw [String.join_append, hjoin, String.join_append, clipped, clipped, if_pos (by omega),
      if_pos]
    simp only [String.join_cons, String.join_nil, String.append_empty, String.length_append]
    omega

private lemma append_of_overflows (took : b.Took n texts) (hfull : b.truncated = false)
    (hover : n < (String.join texts ++ s).length) :
    ∃ b', b.append (.text s) = .ok b' ∧ b'.Took n (texts ++ [s]) := by
  have hsize := took.size hfull
  have hle : (String.join texts).length ≤ n := by
    have htrunc := took.truncated
    rw [hfull, eq_comm, decide_eq_false_iff_not] at htrunc
    omega
  have hlength := hover
  rw [String.length_append] at hlength
  -- the text is cut at the room that is left, and the marker ends the output
  have hroom : b.overflows (Fragment.text s).length = true := by
    simp only [Buffer.overflows, took.cap, Fragment.length, hsize, decide_eq_true_eq]
    omega
  obtain ⟨parts, hparts, hjoin⟩ := took.fragments
  refine ⟨{ b with
      fragments := (b.fragments.push ((Fragment.text s).cut ((n : Int) - b.size))).push
        (.text truncationMarker)
      truncated := true },
    by rw [Buffer.append, hfull, hroom, took.cap]; rfl, took.cap, ?_, fun h => ?_, ?_⟩
  · have hjoined : (String.join (texts ++ [s])) = String.join texts ++ s := by simp
    rw [eq_comm, decide_eq_true_eq, hjoined]
    exact hover
  · cases h
  · have hcut : takeRoom ((n : Int) - b.size) s.toList
        = s.toList.take (n - (String.join texts).length) := by
      rw [takeRoom, if_pos (by omega), hsize]
      congr 1
      omega
    refine ⟨parts ++ [String.ofList (s.toList.take (n - (String.join texts).length)),
      truncationMarker], ?_, ?_⟩
    · simp [hparts, Fragment.cut, hcut]
    · rw [String.join_append, hjoin, clipped, if_pos hle, String.join_append]
      simp only [String.join_cons, String.join_nil, String.append_empty]
      rw [clipped_append_of_le hle hover, String.append_assoc]

/-- A buffer takes every text, cut or not. -/
lemma Buffer.Took.append (took : b.Took n texts) (s : String) :
    ∃ b', b.append (.text s) = .ok b' ∧ b'.Took n (texts ++ [s]) := by
  cases hfull : b.truncated with
  | false =>
    by_cases hfits : (String.join texts ++ s).length ≤ n
    · exact append_of_fits took hfull hfits
    · exact append_of_overflows took hfull (by omega)
  | true =>
    have hlt : n < (String.join texts).length := by
      have htrunc := took.truncated
      rwa [hfull, eq_comm, decide_eq_true_eq] at htrunc
    obtain ⟨parts, hparts, hjoin⟩ := took.fragments
    refine ⟨b, by rw [Buffer.append, hfull]; rfl, took.cap, ?_, fun h => ?_, parts, hparts, ?_⟩
    · rw [hfull, eq_comm, decide_eq_true_eq, String.join_append, String.length_append]
      omega
    · rw [hfull] at h
      cases h
    · rw [hjoin, String.join_append, clipped_append_of_lt hlt]

private lemma textsFrom_map_text (parts : List String) : ∀ index : Nat,
    Buffer.textsFrom index (parts.map .text) = .ok parts := by
  induction parts with
  | nil => exact fun index => rfl
  | cons part rest ih =>
    intro index
    rw [List.map_cons, Buffer.textsFrom, ih]
    rfl

/-- What a buffer shows is what was written to it, clipped to its room. -/
theorem Buffer.Took.value (took : b.Took n texts) :
    b.value = .ok (clipped n (String.join texts)) := by
  obtain ⟨parts, hparts, hjoin⟩ := took.fragments
  rw [Buffer.value, hparts, textsFrom_map_text, ← hjoin]
  rfl

/-! ## How much a buffer holds -/

/-- The number of characters and bytes that a buffer holds. -/
def Buffer.held (b : Buffer) : Nat := (b.fragments.toList.map Fragment.length).sum

/-- Takes texts one after another. -/
def Buffer.appendTexts (b : Buffer) (texts : List String) : Except FractionalRoom Buffer :=
  texts.foldlM (fun b s => b.append (.text s)) b

/-- A buffer takes any texts. -/
lemma Buffer.Took.appendTexts (more : List String) : ∀ {b : Buffer} {texts : List String},
    b.Took n texts → ∃ b', b.appendTexts more = .ok b' ∧ b'.Took n (texts ++ more) := by
  induction more with
  | nil => exact fun took => ⟨_, rfl, by rwa [List.append_nil]⟩
  | cons s rest ih =>
    intro b texts took
    obtain ⟨b', happend, took'⟩ := took.append s
    obtain ⟨b'', hrest, took''⟩ := ih took'
    refine ⟨b'', ?_, by rwa [List.append_assoc] at took''⟩
    rw [Buffer.appendTexts, List.foldlM_cons, happend]
    exact hrest

/-! ## Only the output counts -/

/-- The fragments that the buffer gets of a fragment that it takes. -/
def Buffer.parts (b : Buffer) (fragment : Fragment) : List Fragment :=
  if b.truncated then []
  else if b.overflows fragment.length then
    match b.cap with
    | .whole n => [fragment.cut (n - b.size), .text truncationMarker]
    | .real _ => []
  else [fragment]

/-- What is taken comes after what is there. -/
lemma Buffer.fragments_append {b b' : Buffer} {fragment : Fragment}
    (happend : b.append fragment = .ok b') :
    b'.fragments.toList = b.fragments.toList ++ b.parts fragment := by
  unfold Buffer.append at happend
  unfold Buffer.parts
  split_ifs at happend ⊢ with hfull hroom
  · obtain rfl := Except.ok.inj happend
    rw [List.append_nil]
  · cases hcap : b.cap with
    | real x => simp [hcap] at happend
    | whole n =>
      rw [hcap] at happend
      obtain rfl := Except.ok.inj happend
      rw [Array.toList_push, Array.toList_push, List.append_assoc]
      rfl
  · obtain rfl := Except.ok.inj happend
    rw [Array.toList_push]

/-- A fragment that was taken stays as it is and where it is. -/
lemma Buffer.append_prefix {b b' : Buffer} {fragment : Fragment}
    (happend : b.append fragment = .ok b') : b.fragments.toList <+: b'.fragments.toList := by
  rw [Buffer.fragments_append happend]
  exact List.prefix_append _ _

/-- So do the fragments of many texts. -/
lemma Buffer.appendTexts_prefix (texts : List String) : ∀ {b b' : Buffer},
    b.appendTexts texts = .ok b' → b.fragments.toList <+: b'.fragments.toList := by
  induction texts with
  | nil =>
    intro b b' htexts
    obtain rfl := Except.ok.inj htexts
    exact List.prefix_refl _
  | cons s rest ih =>
    intro b b' htexts
    rw [Buffer.appendTexts, List.foldlM_cons] at htexts
    cases happend : b.append (.text s) with
    | error fault =>
      rw [happend] at htexts
      cases htexts
    | ok c =>
      rw [happend] at htexts
      exact (Buffer.append_prefix happend).trans (ih htexts)

/-- A new buffer takes any texts. After each of them it shows the whole output if that has at most
`n` characters, and otherwise the first `n` characters of it and the marker once; it says so by its
flag. What it holds is a beginning of what it holds later. Both the value and the flag are the same
for every other way to cut the output into texts. -/
theorem value_after_texts (n : Nat) (taken rest : List String) :
    let new : Buffer := { cap := .whole n }
    let output := String.join taken
    ∃ b b', new.appendTexts taken = .ok b ∧ b.appendTexts rest = .ok b' ∧
      b.value = .ok (if output.length ≤ n then output
        else String.ofList (output.toList.take n) ++ truncationMarker) ∧
      (b.truncated = true ↔ n < output.length) ∧
      b.fragments.toList <+: b'.fragments.toList ∧
      ∀ others, String.join others = output →
        ∃ c, new.appendTexts others = .ok c ∧ c.value = b.value ∧ c.truncated = b.truncated := by
  intro new output
  obtain ⟨b, htaken, took⟩ := (Buffer.Took.new n).appendTexts taken
  obtain ⟨b', hrest, -⟩ := took.appendTexts rest
  rw [List.nil_append] at took
  refine ⟨b, b', htaken, hrest, took.value, ?_, Buffer.appendTexts_prefix rest hrest,
    fun others hothers => ?_⟩
  · rw [took.truncated, decide_eq_true_eq]
  · obtain ⟨c, hc, tookOthers⟩ := (Buffer.Took.new n).appendTexts others
    rw [List.nil_append] at tookOthers
    refine ⟨c, hc, ?_, ?_⟩
    · rw [tookOthers.value, took.value, hothers]
    · rw [tookOthers.truncated, took.truncated, hothers]

/-- A text that fits exactly is not cut, and one more character brings the marker. -/
example : (({ cap := .whole 3 } : Buffer).appendTexts ["ab", "c", "d", "e"]).map (·.value)
    = .ok (.ok ("abc" ++ truncationMarker)) := by decide

end SnippetRunner.Capture
