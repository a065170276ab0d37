/-!
# Halves of pairs

The codes from `0xd800` to `0xdfff` are halves of pairs and no characters, yet a text may hold them
one by one. Each of them is held as a private character of its own; `codeOf` gives back the code
(`codeOf_charOf`), and texts are in order by their codes.
-/

namespace SnippetRunner.Text

/-- Whether a code is half of a pair. -/
def isHalf (code : Nat) : Bool := 0xd800 ≤ code && code ≤ 0xdfff

/-- How far the character that holds a half is from its code. -/
def halfOffset : Nat := 0x100000

/-- The character that holds a code. -/
def charOf (code : Nat) : Char :=
  if isHalf code then Char.ofNat (halfOffset + code) else Char.ofNat code

/-- The code of a half that a character holds. -/
def halfOf? (c : Char) : Option Nat :=
  if isHalf (c.toNat - halfOffset) then some (c.toNat - halfOffset) else none

/-- The code that a character holds. -/
def codeOf (c : Char) : Nat := (halfOf? c).getD c.toNat

theorem codeOf_charOf (code : Nat) (h : isHalf code = true) : codeOf (charOf code) = code := by
  have bounds : 0xd800 ≤ code ∧ code ≤ 0xdfff := by simpa [isHalf] using h
  have valid : (halfOffset + code).isValidChar := by
    right; unfold halfOffset; omega
  have toNat : (charOf code).toNat = halfOffset + code := by
    rw [charOf, if_pos h, Char.ofNat, dif_pos valid]
    rfl
  simp [codeOf, halfOf?, toNat, h]

/-- Whether a text holds a half. -/
def holdsHalf (s : String) : Bool := s.toList.any fun c => (halfOf? c).isSome

/-- The order of two texts by their codes. -/
def order (s t : String) : Ordering :=
  if s == t then .eq
  else if holdsHalf s || holdsHalf t then compare (s.toList.map codeOf) (t.toList.map codeOf)
  else compare s t

end SnippetRunner.Text
