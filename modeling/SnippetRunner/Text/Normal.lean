import SnippetRunner.Text.Normal.Tables

/-!
# Normal forms of names

Two names that look alike can be written with different characters. In the normal form of a name
every character is replaced by what it is equivalent to, its marks stand in a fixed order, and what
a character and its marks can make together is one character.
-/

namespace SnippetRunner.Text

namespace Normal

/-- The class of a character: that of a mark, or zero. -/
def classOf (c : Char) : Nat := markClasses.getD c.toNat 0

/-- A character taken apart; `fuel` bounds how many marks it has. -/
def takenApart : Nat → Char → List Char
  | 0, c => [c]
  | fuel + 1, c =>
    match parts[c.toNat]? with
    | some (base, mark) => takenApart fuel (Char.ofNat base) ++ [Char.ofNat mark]
    | none => (equivalents.image? c).getD [c]

/-- Puts a mark before marks in order, behind those of lower classes. -/
def insertMark (c : Char) : List Char → List Char
  | [] => [c]
  | d :: rest =>
    if classOf d ≠ 0 ∧ classOf d < classOf c then d :: insertMark c rest else c :: d :: rest

/-- Marks after the same character in the order of their classes. -/
def ordered (cs : List Char) : List Char := cs.foldr insertMark []

/-- The syllable that two letters, or a syllable and a letter, make together. -/
def syllable? (c d : Char) : Option Char :=
  let first := c.toNat
  let second := d.toNat
  if 0x1100 ≤ first ∧ first ≤ 0x1112 ∧ 0x1161 ≤ second ∧ second ≤ 0x1175 then
    some (Char.ofNat (0xac00 + ((first - 0x1100) * 21 + (second - 0x1161)) * 28))
  else if 0xac00 ≤ first ∧ first ≤ 0xd7a3 ∧ (first - 0xac00) % 28 = 0
      ∧ 0x11a8 ≤ second ∧ second ≤ 0x11c2 then
    some (Char.ofNat (first + (second - 0x11a7)))
  else none

/-- The character that two characters make together. -/
def whole? (c d : Char) : Option Char :=
  match wholes[(c.toNat, d.toNat)]? with
  | some n => some (Char.ofNat n)
  | none => syllable? c d

/-- Puts characters together, from one that is no mark on. `marks` are those after it that it has
not taken in, last one first; it takes in no mark behind one of the same class. -/
def putTogether (c : Char) (marks : List Char) : List Char → List Char
  | [] => c :: marks.reverse
  | d :: rest =>
    let open_ := match marks with
      | [] => true
      | last :: _ => classOf last < classOf d
    match if open_ then whole? c d else none with
    | some whole => putTogether whole marks rest
    | none =>
      if classOf d = 0 then c :: marks.reverse ++ putTogether d [] rest
      else putTogether c (d :: marks) rest

/-- Puts characters together wherever that can be done. -/
def together (cs : List Char) : List Char :=
  let marks := cs.takeWhile fun c => classOf c != 0
  match cs.drop marks.length with
  | [] => marks
  | c :: rest => marks ++ putTogether c [] rest

end Normal

/-- The normal form of a name. -/
def normalName (s : String) : String :=
  if s.toList.all fun c => c.toNat < 128 then s
  else String.ofList
    (Normal.together (Normal.ordered (s.toList.flatMap (Normal.takenApart 8))))

end SnippetRunner.Text
