import SnippetRunner.Data
import SnippetRunner.Snippet.Constant
import SnippetRunner.Snippet.Program
import SnippetRunner.Terminal.Emoji.Names
import SnippetRunner.Terminal.Style
import SnippetRunner.Text.Blank
import SnippetRunner.Text.CodeRanges
import SnippetRunner.Text.LetterCase
import SnippetRunner.Text.LetterKind

/-!
# Marked text

Text with tags in brackets that say how it looks. On a terminal without styles only the tags
disappear. A tag that closes must close one that is open, whose name may be another text for the
same style; a backslash before a tag makes it text.

A name between colons stands for a picture. After a hyphen it may say whether the picture is to look
like one or like a letter. What names no picture stays as it is.

A tag may also say what happens when its text is chosen: the name of an action and constants in
parentheses. They are read when the tag is closed.
-/

namespace SnippetRunner.Terminal

open SnippetRunner.Text

/-! ## Pictures by name -/

namespace Emoji

/-- The word before the equals sign in the first entry of a table that has a name. -/
def keyOf? (table : List String) (name : List Char) : Option (List Char) :=
  table.findSome? fun line =>
    (pieces (· == ' ') line.toList).findSome? fun word =>
      let names := (word.dropWhile (· != '=')).drop 1
      if (pieces (· == ',') names).contains name then some (word.takeWhile (· != '='))
      else none

/-- The picture that words of hexadecimal digits with hyphens between them write. -/
def ofCode (code : List Char) : List Char :=
  (pieces (· == '-') code).map fun word => Char.ofNat (hexValue word)

/-- The flag of a region: its letters as the letters of flags. -/
def ofRegion (region : List Char) : List Char :=
  region.map fun c => Char.ofNat (0x1f1e6 + (c.toNat - 'A'.toNat))

/-- The rest of a name after its start, if it starts so. -/
def past? (start name : List Char) : Option (List Char) :=
  if start.isPrefixOf name then some (name.drop start.length) else none

/-- The name before its end, if it ends so. -/
def upTo? (ending name : List Char) : Option (List Char) :=
  (past? ending.reverse name.reverse).map List.reverse

/-- The flag that has a name. -/
def flag? (name : List Char) : Option (List Char) :=
  (((past? "flag_for_".toList name).bind (keyOf? regions)).or
    ((keyOf? regions name).or (keyOf? flags name))).map ofRegion

/-- A picture with a tone after its first code point, where it takes the place of a selector. -/
def toned (tone : Char) : List Char → List Char
  | c :: '\ufe0f' :: rest => c :: tone :: rest
  | c :: rest => c :: tone :: rest
  | [] => []

/-- The picture in a tone that has a name. -/
def toned? (name : List Char) : Option (List Char) :=
  tones.findSome? fun (ending, tone) => do
    let base ← upTo? ending.toList name
    if tonedNames.any fun line => (pieces (· == ' ') line.toList).contains base then
      return toned (Char.ofNat tone) (ofCode (← keyOf? pictures base))
    else none

/-- The picture that has a name. -/
def ofName? (name : List Char) : Option (List Char) :=
  (((keyOf? pictures name).map ofCode).or (flag? name)).or (toned? name)

/-- How a picture may be asked to look, with the character that says so. -/
def variants : List (String × Char) := [("-emoji", '\ufe0f'), ("-text", '\ufe0e')]

/-- The picture that a name between colons stands for. -/
def ofColons? (inside : List Char) : Option (List Char) :=
  let variant := variants.findSome? fun (ending, c) =>
    (upTo? ending.toList inside).map fun name => (name, [c])
  let (name, after) := variant.getD (inside, [])
  (ofName? (lower (String.ofList name)).toList).map (· ++ after)

/-- Characters with pictures for the names between colons; `fuel` is above their number. -/
def fill : Nat → List Char → List Char
  | fuel + 1, ':' :: rest =>
    let inside := rest.takeWhile fun c => c != ':' && ! isBlank c
    match rest.drop inside.length with
    | ':' :: after =>
      (ofColons? inside).getD (':' :: inside ++ [':']) ++ fill fuel after
    | _ => ':' :: fill fuel rest
  | fuel + 1, c :: rest => c :: fill fuel rest
  | _, cs => cs

end Emoji

/-- Characters with pictures for the names between colons. -/
def withPictures (cs : List Char) : List Char := Emoji.fill (cs.length + 1) cs

/-! ## Tags -/

/-- Whether a character may be part of the name of an action. -/
def isActionName (c : Char) : Bool := isLetterOrNumeral c || c == '_' || c == '.'

/-- The constants of an action: what follows its name if that is in parentheses on one line,
nothing if there is only a name, and else all of the text. -/
def actionConstants (action : String) : String :=
  match action.toList.dropWhile isActionName with
  | [] => "()"
  | '(' :: rest =>
    if rest.getLast? == some ')' && ! rest.contains '\n' then String.ofList ('(' :: rest)
    else action
  | _ => action

/-- A problem in an action of a tag. -/
def actionProblem (shown reason : String) : Problem :=
  ⟨"MarkupError", s!"error parsing {shown}; {reason}"⟩

/-- Checks the action of a tag. -/
def checkAction (action : String) : Except Problem Unit :=
  let whole := actionProblem (quoted action)
  let constants := actionConstants (strip action)
  if constants.contains '\x00' then .error (whole Snippet.zeroComplaint)
  else match Snippet.readSingle constants with
  | .error refusal =>
    .error (actionProblem s!"{quoted constants} in {quoted action}" refusal.message)
  | .ok e => match e.checkConstant with
    | .error fault => .error (whole fault.message)
    | .ok () => .ok ()

/-- A piece of marked text. -/
inductive Piece where
  | plain (cs : List Char)
  /-- A tag with what is between its brackets, and where it begins. -/
  | tag (inside : List Char) (position : Nat)
  deriving Repr, DecidableEq

/-- Whether a tag can begin with a character. -/
def beginsTag (c : Char) : Bool := ('a' ≤ c && c ≤ 'z') || c == '#' || c == '/' || c == '@'

/-- The inside of a tag whose opening bracket comes next, and what follows it. -/
def tagAhead? (cs : List Char) : Option (List Char × List Char) :=
  match cs with
  | '[' :: c :: rest =>
    if ! beginsTag c then none
    else
      let inside := rest.takeWhile fun c => c != ']' && c != '['
      match rest.dropWhile fun c => c != ']' && c != '[' with
      | ']' :: after => some (c :: inside, after)
      | _ => none
  | _ => none

/-- Adds plain characters before pieces. -/
def prepend (cs : List Char) : List Piece → List Piece
  | .plain more :: rest => .plain (cs ++ more) :: rest
  | rest => if cs.isEmpty then rest else .plain cs :: rest

/-- Plain characters, in which a backslash before a bracket is left out. -/
def unescape : List Char → List Char
  | '\\' :: '[' :: rest => '[' :: unescape rest
  | c :: rest => c :: unescape rest
  | [] => []

/-- The pieces of a marked text. -/
def markupPieces (position : Nat) : Nat → List Char → List Piece
  | 0, _ => []
  | _ + 1, [] => []
  | fuel + 1, c :: rest =>
    let cs := c :: rest
    let slashes := cs.takeWhile (· == '\\')
    let count := slashes.length
    match tagAhead? (cs.drop count) with
    | some (inside, after) =>
      let next := position + count + inside.length + 2
      let more := markupPieces next fuel after
      let kept := List.replicate (count / 2) '\\'
      if count % 2 = 1 then
        [Piece.plain kept, .plain ('[' :: inside ++ [']'])] ++ more
      else [Piece.plain kept, .tag inside (position + count)] ++ more
    | none =>
      let step := max 1 count
      prepend (cs.take step) (markupPieces (position + step) fuel (cs.drop step))

/-- An open tag. -/
structure Tag where
  /-- The normal form of its name. -/
  name : String
  /-- What follows an equals sign. -/
  setting : Option String
  deriving Repr, DecidableEq

namespace Tag

/-- The parts of what is between the brackets of a tag, before and after an equals sign. -/
def parts (inside : List Char) : String × Option String :=
  let name := inside.takeWhile (· != '=')
  let setting := match inside.drop name.length with
    | _ :: setting => some (String.ofList setting)
    | [] => none
  (String.ofList name, setting)

/-- The style that a tag asks for, as text. -/
def style (tag : Tag) : String :=
  match tag.setting with
  | some setting => tag.name ++ " " ++ setting
  | none => tag.name

/-- Whether a tag is an action. -/
def isAction (tag : Tag) : Bool := tag.name.startsWith "@"

/-- Checks what a tag says about its text, which is read when the tag is closed. -/
def check (tag : Tag) : Except Problem Unit :=
  if ! tag.isAction then .ok ()
  else match tag.setting with
    | some action => if action.isEmpty then .ok () else checkAction action
    | none => .ok ()

/-- Checks that the style of a tag can be tried. -/
def checkStyle (tag : Tag) : Except Problem Unit :=
  if tag.isAction then .ok ()
  else match Style.read tag.style with
    | .ok _ => .ok ()
    | .error fault => match Style.problem? fault with
      | some problem => .error problem
      | none => .ok ()

end Tag

/-- The problem with a closing tag that has a name but closes nothing. -/
def unmatchedProblem (inside : List Char) (position : Nat) : Problem :=
  ⟨"MarkupError", s!"closing tag '[{String.ofList inside}]' at position {position} " ++
    "doesn't match any open tag"⟩

/-- The problem with a closing tag without a name that closes nothing. -/
def nothingOpenProblem (position : Nat) : Problem :=
  ⟨"MarkupError", s!"closing tag '[/]' at position {position} has nothing to close"⟩

/-- The tags of pieces in the order in which they open; `openTags` are the ones that are open, the
last one first. Every closing tag has to close one of them. -/
def tagsOf (openTags : List Tag) : List Piece → Except Problem (List Tag)
  | [] => .ok []
  | .plain _ :: rest => tagsOf openTags rest
  | .tag inside position :: rest => do
    let (name, setting) := Tag.parts inside
    match name.toList with
    | '/' :: name =>
      let name := Text.strip (String.ofList name)
      if name.isEmpty then
        match openTags with
        | [] => throw (nothingOpenProblem position)
        | tag :: outer =>
          tag.check
          tagsOf outer rest
      else
        let name ← Style.normalForm name
        match openTags.find? (·.name == name) with
        | none => throw (unmatchedProblem inside position)
        | some tag =>
          tag.check
          tagsOf (openTags.eraseP (·.name == name)) rest
    | _ =>
      let tag : Tag := ⟨← Style.normalForm name, setting⟩
      return tag :: (← tagsOf (tag :: openTags) rest)

/-- The characters of a piece without tags. -/
def Piece.characters : Piece → List Char
  | .plain cs => withPictures (unescape cs)
  | .tag _ _ => []

/-- A marked text without its tags. -/
def unmarked (s : String) : Except Problem (List Char) := do
  let cs := s.toList
  let pieces := markupPieces 0 (cs.length + 1) cs
  let tags ← tagsOf [] pieces
  tags.forM Tag.checkStyle
  return pieces.flatMap Piece.characters

end SnippetRunner.Terminal
