import SnippetRunner.Text.Blank
import SnippetRunner.Text.LetterCase

/-!
# Searching texts

A form tells what is looked for in a text. The search tries the ways in which a form can fit one
after another: it keeps what is still to be fitted and the ways it has not tried yet, and takes
back everything when a way does not lead to an end.
-/

namespace SnippetRunner.Search

/-! ## Forms -/

/-- A class of characters. -/
inductive Category where
  | digit
  | blank
  | word
  deriving Repr, DecidableEq

/-- What a set of characters is put together from. -/
inductive Member where
  | single (c : Char)
  | range (first last : Char)
  | category (kind : Category) (negated : Bool)
  deriving Repr, DecidableEq

/-- A place in a text. -/
inductive Anchor where
  | start
  | lineStart
  /-- The end, or before a line break at the end. -/
  | finish
  | lineEnd
  | veryEnd
  /-- The border of a word, or no border. -/
  | border (wanted ascii : Bool)
  deriving Repr, DecidableEq

/-- How often a repetition tries to repeat. -/
inductive Manner where
  | often
  | seldom
  /-- As often as it can, once and for all. -/
  | final
  deriving Repr, DecidableEq

/-- What is looked for. `fold` tells that capital and small letters are the same. -/
inductive Form where
  | single (c : Char) (fold : Bool)
  | any (breaks : Bool)
  | set (negated : Bool) (members : List Member) (fold ascii : Bool)
  | anchor (anchor : Anchor)
  | sequence (parts : List Form)
  | branch (ways : List Form)
  | group (number : Nat) (body : Form)
  | repeated (least : Nat) (most : Option Nat) (manner : Manner) (body : Form)
  /-- What a group has taken once more. -/
  | reference (number : Nat) (fold : Bool)
  /-- What has to follow, or what has to stand so many characters before. -/
  | look (behind : Option Nat) (wanted : Bool) (body : Form)
  | atomic (body : Form)
  | conditional (number : Nat) (yes no : Form)
  deriving Repr, Inhabited

/-- The least and the greatest length of what fits; no greatest one if there is no limit. -/
abbrev Width := Nat × Option Nat

namespace Width

/-- One after the other. -/
def add (a b : Width) : Width :=
  (a.1 + b.1, a.2.bind fun m => b.2.map fun n => m + n)

/-- Either one or the other. -/
def either (a b : Width) : Width :=
  (min a.1 b.1, a.2.bind fun m => b.2.map fun n => max m n)

/-- Several times. -/
def times (a : Width) (least : Nat) (most : Option Nat) : Width :=
  (a.1 * least, match a.2, most with
    | some 0, _ => some 0
    | some m, some n => some (m * n)
    | _, _ => none)

end Width

mutual

/-- How much fits a form; `groups` are the widths of the groups by number. -/
def Form.width (groups : List Width) : Form → Width
  | .single _ _ | .any _ | .set _ _ _ _ => (1, some 1)
  | .anchor _ | .look _ _ _ => (0, some 0)
  | .sequence parts => widthOfAll groups parts
  | .branch ways => widthOfAny groups ways
  | .group _ body | .atomic body => body.width groups
  | .repeated least most _ body => (body.width groups).times least most
  | .reference number _ => groups.getD number (0, some 0)
  | .conditional _ yes no => (yes.width groups).either (no.width groups)

/-- How much fits forms one after the other. -/
def widthOfAll (groups : List Width) : List Form → Width
  | [] => (0, some 0)
  | f :: rest => (f.width groups).add (widthOfAll groups rest)

/-- How much fits one among forms. -/
def widthOfAny (groups : List Width) : List Form → Width
  | [] => (0, some 0)
  | [f] => f.width groups
  | f :: rest => (f.width groups).either (widthOfAny groups rest)

end

/-! ## Characters -/

/-- Whether a character belongs to a class. -/
def Category.contains (ascii : Bool) (c : Char) : Category → Bool
  | .digit => if ascii then c.isDigit else Text.isDecimalDigit c
  | .blank =>
    if ascii then [' ', '\t', '\n', '\r', '\x0b', '\x0c'].contains c else Text.isBlank c
  | .word =>
    c == '_' || if ascii then c.isAlphanum else Text.isLetterOrNumeral c

/-- Whether a character belongs to a member of a set. -/
def Member.contains (ascii : Bool) (c : Char) : Member → Bool
  | .single d => c == d
  | .range first last => first ≤ c && c ≤ last
  | .category kind negated => kind.contains ascii c != negated

/-- The letters that are the same as a character: its small and its capital one. -/
def variants (c : Char) : List Char :=
  let one (s : String) : List Char := match s.toList with
    | [d] => [d]
    | _ => []
  if c.val < 128 then [c, c.toLower, c.toUpper]
  else c :: one (Text.lower c.toString) ++ one (Text.upper c.toString)

/-- Whether two characters are the same. -/
def same (fold : Bool) (c d : Char) : Bool :=
  c == d || (fold && (variants c).any (variants d).contains)

/-- Whether a character belongs to a set. -/
def inSet (negated : Bool) (members : List Member) (fold ascii : Bool) (c : Char) : Bool :=
  let cs := if fold then variants c else [c]
  (cs.any fun c => members.any (Member.contains ascii c)) != negated

/-! ## The search -/

/-- A text in which is searched. -/
abbrev Subject := Array Char

/-- Whether a place is the border of a word. -/
def isBorder (s : Subject) (ascii : Bool) (place : Nat) : Bool :=
  let word (i : Nat) : Bool := (s[i]?).any fun c => Category.word.contains ascii c
  (0 < place && word (place - 1)) != word place

/-- Whether a place is one that is looked for. -/
def Anchor.holds (s : Subject) (place : Nat) : Anchor → Bool
  | .start => place == 0
  | .lineStart => place == 0 || s[place - 1]? == some '\n'
  | .finish => place == s.size || (place + 1 == s.size && s[place]? == some '\n')
  | .lineEnd => place == s.size || s[place]? == some '\n'
  | .veryEnd => place == s.size
  | .border wanted ascii => !s.isEmpty && isBorder s ascii place == wanted

/-- How far a search has come: its place, what the groups have taken, and the group that ended
last. -/
structure Trail where
  place : Nat
  taken : List (Nat × Nat × Nat) := []
  last : Option Nat := none

/-- What a group has taken. Group zero is the whole. -/
def Trail.group? (p : Trail) (number : Nat) : Option (Nat × Nat) := p.taken.lookup number

/-- Ends a group. -/
def Trail.close (p : Trail) (number start : Nat) : Trail :=
  { p with
    taken := (number, start, p.place) :: p.taken.filter (·.1 != number)
    last := if number = 0 then p.last else some number }

/-- What is still to be fitted. -/
inductive Task where
  | form (form : Form)
  /-- Ends a group. -/
  | close (number start : Nat)
  /-- Decides about the next round of a repetition; the last one started at a place. -/
  | again (least : Nat) (most : Option Nat) (manner : Manner) (body : Form) (count : Nat)
      (before : Option Nat)
  /-- The end must not be at a place. -/
  | notAt (place : Nat)
  /-- The end must be at a place. -/
  | onlyAt (place : Nat)

/-- What a search comes to. -/
inductive Result where
  | found (trail : Trail)
  | absent
  /-- It needs more steps than it may take. -/
  | exhausted

/-- Searches for the first way to do all tasks; `others` are the ways that were not tried yet. -/
def run (s : Subject) : Nat → Trail → List Task → List (Trail × List Task) → Result
  | 0, _, _, _ => .exhausted
  | _ + 1, p, [], _ => .found p
  | fuel + 1, p, task :: rest, others =>
    let back (_ : Unit) : Result :=
      match others with
      | [] => .absent
      | (p, tasks) :: others => run s fuel p tasks others
    let onward (holds : Bool) (next : Trail) : Result :=
      if holds then run s fuel next rest others else back ()
    let character (test : Char → Bool) : Result :=
      onward ((s[p.place]?).any test) { p with place := p.place + 1 }
    match task with
    | .close number start => run s fuel (p.close number start) rest others
    | .notAt place => onward (p.place != place) p
    | .onlyAt place => onward (p.place == place) p
    | .again least most manner body count before =>
      let once : List Task :=
        .form body :: .again least most manner body (count + 1) (some p.place) :: rest
      if count < least then run s fuel p once others
      else if most == some count || before == some p.place then run s fuel p rest others
      else match manner with
        | .seldom => run s fuel p rest ((p, once) :: others)
        | _ => run s fuel p once ((p, rest) :: others)
    | .form form =>
      match form with
      | .single c fold => character (same fold c)
      | .any breaks => character fun c => breaks || c != '\n'
      | .set negated members fold ascii => character (inSet negated members fold ascii)
      | .anchor anchor => onward (anchor.holds s p.place) p
      | .sequence parts => run s fuel p (parts.map Task.form ++ rest) others
      | .branch [] => back ()
      | .branch (way :: ways) =>
        run s fuel p (.form way :: rest) ((ways.map fun w => (p, .form w :: rest)) ++ others)
      | .group number body => run s fuel p (.form body :: .close number p.place :: rest) others
      | .repeated least most .final body =>
        match run s fuel p [.again least most .often body 0 none] [] with
        | .found next => run s fuel next rest others
        | .absent => back ()
        | .exhausted => .exhausted
      | .repeated least most manner body =>
        run s fuel p (.again least most manner body 0 none :: rest) others
      | .reference number fold =>
        match p.group? number with
        | none => back ()
        | some (start, stop) =>
          let size := stop - start
          let fits := p.place + size ≤ s.size && (List.range size).all fun i =>
            same fold (s.getD (start + i) ' ') (s.getD (p.place + i) ' ')
          onward fits { p with place := p.place + size }
      | .look behind wanted body =>
        let start := p.place - behind.getD 0
        if p.place < behind.getD 0 then onward (!wanted) p
        else match run s fuel { p with place := start } [.form body] [] with
          | .found next =>
            if wanted then run s fuel { next with place := p.place } rest others else back ()
          | .absent => onward (!wanted) p
          | .exhausted => .exhausted
      | .atomic body =>
        match run s fuel p [.form body] [] with
        | .found next => run s fuel next rest others
        | .absent => back ()
        | .exhausted => .exhausted
      | .conditional number yes no =>
        run s fuel p (.form (if (p.group? number).isSome then yes else no) :: rest) others

/-- How many steps one search may take. -/
def stepLimit : Nat := 20000000

/-- Searches at one place. -/
def runAt (s : Subject) (form : Form) (finish : List Task) (place : Nat) : Result :=
  run s stepLimit { place } (.form (.group 0 form) :: finish) []

/-- Searches at so many places one after another. -/
def runFrom (s : Subject) (form : Form) (finish : List Task) : Nat → Nat → Result
  | 0, _ => .absent
  | count + 1, place =>
    match runAt s form finish place with
    | .absent => runFrom s form finish count (place + 1)
    | result => result

/-- Where a match may begin and end. -/
inductive Extent where
  | anywhere
  | atStart
  | whole
  deriving Repr, DecidableEq

/-- The first match from a place on. -/
def first (s : Subject) (form : Form) (extent : Extent) (place : Nat) (finish : List Task := []) :
    Result :=
  if s.size < place then .absent
  else match extent with
    | .anywhere => runFrom s form finish (s.size + 1 - place) place
    | .atStart => runAt s form finish place
    | .whole => runAt s form (.onlyAt s.size :: finish) place

/-- All matches from a place on, at most so many; nothing if the search takes too long. After a match
that takes nothing the next one does not take nothing at the same place. -/
def all (s : Subject) (form : Form) : Nat → Nat → Bool → Option (List Trail)
  | 0, _, _ => some []
  | count + 1, place, empty =>
    match first s form .anywhere place (if empty then [.notAt place] else []) with
    | .exhausted => none
    | .absent => some []
    | .found p =>
      let empty := (p.group? 0).any fun (start, stop) => start == stop
      (all s form count p.place empty).map (p :: ·)

end SnippetRunner.Search
