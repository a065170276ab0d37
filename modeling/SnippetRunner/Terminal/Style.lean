import SnippetRunner.Data
import SnippetRunner.Number.Reading
import SnippetRunner.Text.Blank
import SnippetRunner.Text.LetterCase

/-!
# Styles

How text looks on a terminal: effects that are on or off, a color, a color behind it, and a link.
A style is written in words, and two texts for the same style have one normal form. A color is
written by its name, by six hexadecimal digits after a `#`, by its number among 256, or by its
three parts in decimal, and is known by its text in lower case.
-/

namespace SnippetRunner.Terminal

open SnippetRunner.Text

/-- The names of colors, separated by blanks. -/
def colorNames : List String :=
  ["black red green yellow blue magenta cyan white bright_black bright_red bright_green",
   "bright_yellow bright_blue bright_magenta bright_cyan bright_white grey0 gray0 navy_blue",
   "dark_blue blue3 blue1 dark_green deep_sky_blue4 dodger_blue3 dodger_blue2 green4",
   "spring_green4 turquoise4 deep_sky_blue3 dodger_blue1 green3 spring_green3 dark_cyan",
   "light_sea_green deep_sky_blue2 deep_sky_blue1 spring_green2 cyan3 dark_turquoise",
   "turquoise2 green1 spring_green1 medium_spring_green cyan2 cyan1 dark_red deep_pink4",
   "purple4 purple3 blue_violet orange4 grey37 gray37 medium_purple4 slate_blue3 royal_blue1",
   "chartreuse4 dark_sea_green4 pale_turquoise4 steel_blue steel_blue3 cornflower_blue",
   "chartreuse3 cadet_blue sky_blue3 steel_blue1 pale_green3 sea_green3 aquamarine3",
   "medium_turquoise chartreuse2 sea_green2 sea_green1 aquamarine1 dark_slate_gray2",
   "dark_magenta dark_violet purple light_pink4 plum4 medium_purple3 slate_blue1 yellow4",
   "wheat4 grey53 gray53 light_slate_grey light_slate_gray medium_purple light_slate_blue",
   "dark_olive_green3 dark_sea_green light_sky_blue3 sky_blue2 dark_sea_green3",
   "dark_slate_gray3 sky_blue1 chartreuse1 light_green pale_green1 dark_slate_gray1 red3",
   "medium_violet_red magenta3 dark_orange3 indian_red hot_pink3 medium_orchid3 medium_orchid",
   "medium_purple2 dark_goldenrod light_salmon3 rosy_brown grey63 gray63 medium_purple1 gold3",
   "dark_khaki navajo_white3 grey69 gray69 light_steel_blue3 light_steel_blue yellow3",
   "dark_sea_green2 light_cyan3 light_sky_blue1 green_yellow dark_olive_green2 dark_sea_green1",
   "pale_turquoise1 deep_pink3 magenta2 hot_pink2 orchid medium_orchid1 orange3 light_pink3",
   "pink3 plum3 violet light_goldenrod3 tan misty_rose3 thistle3 plum2 khaki3 light_goldenrod2",
   "light_yellow3 grey84 gray84 light_steel_blue1 yellow2 dark_olive_green1 honeydew2",
   "light_cyan1 red1 deep_pink2 deep_pink1 magenta1 orange_red1 indian_red1 hot_pink",
   "dark_orange salmon1 light_coral pale_violet_red1 orchid2 orchid1 orange1 sandy_brown",
   "light_salmon1 light_pink1 pink1 plum1 gold1 navajo_white1 misty_rose1 thistle1 yellow1",
   "light_goldenrod1 khaki1 wheat1 cornsilk1 grey100 gray100 grey3 gray3 grey7 gray7 grey11",
   "gray11 grey15 gray15 grey19 gray19 grey23 gray23 grey27 gray27 grey30 gray30 grey35 gray35",
   "grey39 gray39 grey42 gray42 grey46 gray46 grey50 gray50 grey54 gray54 grey58 gray58 grey62",
   "gray62 grey66 gray66 grey70 gray70 grey74 gray74 grey78 gray78 grey82 gray82 grey85 gray85",
   "grey89 gray89 grey93 gray93"]

/-- Why a text is no color. -/
inductive ColorFault where
  | unknown
  /-- One of the three parts is no number. -/
  | part (text : String) (fault : Number.IntFault)
  deriving Repr, DecidableEq

/-- Whether a part of a color is at most 255. -/
def colorPart (cs : List Char) : Except ColorFault Bool :=
  let text := String.ofList cs
  match Number.readInt text with
  | .ok n => .ok (n ≤ 255)
  | .error fault => .error (.part text fault)

/-- Checks the three parts of a color, which are read in order. -/
def checkParts (inside : List Char) : Except ColorFault Unit :=
  match pieces (· == ',') inside with
  | [red, green, blue] => do
    let red ← colorPart red
    let green ← colorPart green
    let blue ← colorPart blue
    if red && green && blue then return () else throw .unknown
  | _ => .error .unknown

/-- What stands between an opening text and a closing parenthesis. -/
def inCall? (opening : String) (cs : List Char) : Option (List Char) :=
  let start := opening.toList
  if start.isPrefixOf cs && cs.getLast? == some ')' then some (cs.drop start.length).dropLast
  else none

/-- Whether decimal digits write the number of a color. -/
def isColorNumber (cs : List Char) : Bool :=
  0 < cs.length && cs.length ≤ 3 && cs.all Char.isDigit && Number.digitsValue cs ≤ 255

/-- Whether a character is a hexadecimal digit in lower case. -/
def isLowerHex (c : Char) : Bool := c.isDigit || ('a' ≤ c && c ≤ 'f')

/-- The color that a word writes. -/
def readColor (word : String) : Except ColorFault String := do
  let color := lower word
  let cs := color.toList
  if color == "default" || colorNames.any (fun line => (pieces (· == ' ') line.toList).contains cs)
  then return color
  else match cs with
    | '#' :: digits =>
      if digits.length = 6 && digits.all isLowerHex then return color else throw .unknown
    | _ =>
      if let some number := inCall? "color(" cs then
        if isColorNumber number then return color else throw .unknown
      else if let some inside := inCall? "rgb(" cs then
        if inside ≠ [] ∧ inside.all (fun c => c == ',' || (decimalValue? c).isSome) then
          checkParts inside
          return color
        else throw .unknown
      else throw .unknown

open SnippetRunner.Text

/-- The effects, in the order in which they are written. -/
inductive Effect where
  | bold | dim | italic | underline | blink | fastBlink | reverse | conceal | strike
  | doubleUnderline | frame | encircle | overline
  deriving Repr, DecidableEq

namespace Effect

/-- All effects with their names and the words that stand for them. -/
def all : List (Effect × String × List String) :=
  [(bold, "bold", ["bold", "b"]), (dim, "dim", ["dim", "d"]), (italic, "italic", ["italic", "i"]),
    (underline, "underline", ["underline", "u"]), (blink, "blink", ["blink"]),
    (fastBlink, "blink2", ["blink2"]), (reverse, "reverse", ["reverse", "r"]),
    (conceal, "conceal", ["conceal", "c"]), (strike, "strike", ["strike", "s"]),
    (doubleUnderline, "underline2", ["underline2", "uu"]), (frame, "frame", ["frame"]),
    (encircle, "encircle", ["encircle"]), (overline, "overline", ["overline", "o"])]

/-- The effect that a word stands for. -/
def ofWord? (word : String) : Option Effect :=
  (all.find? fun (_, _, words) => words.contains word).map (·.1)

end Effect

/-- A style; the last setting of an effect is the first in the list. -/
structure Style where
  effects : List (Effect × Bool) := []
  color : Option String := none
  /-- The color behind the text. -/
  ground : Option String := none
  link : Option String := none
  deriving Repr, DecidableEq

namespace Style

/-- The words of a style in their order. -/
def words (style : Style) : List String :=
  (Effect.all.filterMap fun (effect, name, _) =>
    (style.effects.lookup effect).map fun on => if on then name else "not " ++ name) ++
  style.color.toList ++ (style.ground.map ("on " ++ ·)).toList ++
  (style.link.map ("link " ++ ·)).toList

/-- The text of a style. -/
def text (style : Style) : String :=
  if style.words.isEmpty then "none" else " ".intercalate style.words

/-- Adds what words say to a style. Only the first word of a setting may be in upper case, and
colors. -/
def withWords (style : Style) : List String → Except ColorFault Style
  | [] => .ok style
  | word :: rest =>
    match lower word, rest with
    | "on", color :: rest => do withWords { style with ground := some (← readColor color) } rest
    | "link", link :: rest => withWords { style with link := some link } rest
    | "not", word :: rest =>
      match Effect.ofWord? word with
      | some effect => withWords { style with effects := (effect, false) :: style.effects } rest
      | none => .error .unknown
    | "on", [] | "link", [] | "not", [] => .error .unknown
    | word, rest =>
      match Effect.ofWord? word with
      | some effect => withWords { style with effects := (effect, true) :: style.effects } rest
      | none => do withWords { style with color := some (← readColor word) } rest

/-- The style that a text writes. -/
def read (text : String) : Except ColorFault Style :=
  if strip text == "none" then .ok {}
  else withWords {} (((pieces isBlank text.toList).filter (! ·.isEmpty)).map String.ofList)

/-- The problem of a text that cannot even be tried as a style: a color with a part that is no
number. -/
def problem? : ColorFault → Option Problem
  | .unknown => none
  | .part text fault => some ⟨"ValueError", fault.complaint 10 text⟩

/-- The normal form of the text of a style; what is no style is put in lower case. -/
def normalForm (text : String) : Except Problem String :=
  match read text with
  | .ok style => .ok style.text
  | .error fault =>
    match problem? fault with
    | some problem => .error problem
    | none => .ok (lower (strip text))

end Style

end SnippetRunner.Terminal
