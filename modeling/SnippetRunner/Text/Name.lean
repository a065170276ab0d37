import SnippetRunner.Text.Half
import SnippetRunner.Text.Name.Forms
import SnippetRunner.Text.Name.Letters
import SnippetRunner.Text.Name.Pictures
import SnippetRunner.Text.Name.Signs

/-!
# Names of characters

The name of a character and the character of a name. Names of letters, signs and pictures are
listed; ideographs are named by their codes, and syllables of three parts by the parts.
-/

namespace SnippetRunner.Text.Name

/-- Further names, with semicolons between the characters. -/
def others : List String :=
  [ "0=NULL,NUL;1=START OF HEADING,SOH;2=START OF TEXT,STX;3=END OF TEXT,ETX",
    "4=END OF TRANSMISSION,EOT;5=ENQUIRY,ENQ;6=ACKNOWLEDGE,ACK;7=ALERT,BEL;8=BACKSPACE,BS",
    "9=CHARACTER TABULATION,HORIZONTAL TABULATION,HT,TAB",
    "a=LINE FEED,NEW LINE,END OF LINE,LF,NL,EOL;b=LINE TABULATION,VERTICAL TABULATION,VT",
    "c=FORM FEED,FF;d=CARRIAGE RETURN,CR;e=SHIFT OUT,LOCKING-SHIFT ONE,SO",
    "f=SHIFT IN,LOCKING-SHIFT ZERO,SI;10=DATA LINK ESCAPE,DLE;11=DEVICE CONTROL ONE,DC1",
    "12=DEVICE CONTROL TWO,DC2;13=DEVICE CONTROL THREE,DC3;14=DEVICE CONTROL FOUR,DC4",
    "15=NEGATIVE ACKNOWLEDGE,NAK;16=SYNCHRONOUS IDLE,SYN;17=END OF TRANSMISSION BLOCK,ETB",
    "18=CANCEL,CAN;19=END OF MEDIUM,EOM;1a=SUBSTITUTE,SUB;1b=ESCAPE,ESC",
    "1c=INFORMATION SEPARATOR FOUR,FILE SEPARATOR,FS",
    "1d=INFORMATION SEPARATOR THREE,GROUP SEPARATOR,GS",
    "1e=INFORMATION SEPARATOR TWO,RECORD SEPARATOR,RS",
    "1f=INFORMATION SEPARATOR ONE,UNIT SEPARATOR,US;20=SP;7f=DELETE,DEL",
    "80=PADDING CHARACTER,PAD;81=HIGH OCTET PRESET,HOP;82=BREAK PERMITTED HERE,BPH",
    "83=NO BREAK HERE,NBH;84=INDEX,IND;85=NEXT LINE,NEL;86=START OF SELECTED AREA,SSA",
    "87=END OF SELECTED AREA,ESA;88=CHARACTER TABULATION SET,HORIZONTAL TABULATION SET,HTS",
    "8b=PARTIAL LINE FORWARD,PARTIAL LINE DOWN,PLD;8c=PARTIAL LINE BACKWARD,PARTIAL LINE UP,PLU",
    "8d=REVERSE LINE FEED,REVERSE INDEX,RI;8e=SINGLE SHIFT TWO,SS2;8f=SINGLE SHIFT THREE,SS3",
    "90=DEVICE CONTROL STRING,DCS;91=PRIVATE USE ONE,PU1;9b=CONTROL SEQUENCE INTRODUCER,CSI",
    "9c=STRING TERMINATOR,ST;9d=OPERATING SYSTEM COMMAND,OSC;9e=PRIVACY MESSAGE,PM",
    "9f=APPLICATION PROGRAM COMMAND,APC;a0=NBSP;ad=SHY;1a2=LATIN CAPITAL LETTER GHA",
    "1a3=LATIN SMALL LETTER GHA;34f=CGJ;61c=ALM;200b=ZWSP;200c=ZWNJ;200d=ZWJ;200e=LRM;200f=RLM",
    "202a=LRE;202b=RLE;202c=PDF;202d=LRO;202e=RLO;202f=NNBSP;205f=MMSP;2060=WJ;2066=LRI",
    "2067=RLI;2068=FSI;2069=PDI;2118=WEIERSTRASS ELLIPTIC FUNCTION;fe00=VS1;fe0e=VS15;fe0f=VS16",
    "feff=BYTE ORDER MARK,BOM,ZWNBSP"]

/-- A number in hexadecimal digits. -/
def hexNumber (digits : List Char) : Nat :=
  digits.foldl (fun n c => 16 * n +
    if c.isDigit then c.toNat - '0'.toNat else c.toLower.toNat - 'a'.toNat + 10) 0

/-- A name after the name before it, with which it has some words in common. -/
def extended (before coded : String) : String :=
  match coded.toList with
  | d :: rest =>
    if d.isDigit then
      String.intercalate " " ((before.splitOn " ").take (d.toNat - '0'.toNat))
        ++ " " ++ String.ofList rest
    else coded
  | [] => ""

/-- The names of characters with codes that follow each other, without what they have in common
with the name before. -/
def unfolded (code : Nat) (before : String) : List String → List (Nat × String)
  | [] => []
  | coded :: rest =>
    let name := extended before coded
    (code, name) :: unfolded (code + 1) name rest

/-- The codes and names of a line. -/
def ofLine (line : String) : List (Nat × String) :=
  match line.splitOn "=" with
  | [code, names] => unfolded (hexNumber code.toList) "" (names.splitOn ",")
  | _ => []

/-- The codes and names of further names for one character. -/
def ofOther (entry : String) : List (Nat × String) :=
  match entry.splitOn "=" with
  | [code, names] => (names.splitOn ",").map (hexNumber code.toList, ·)
  | _ => []

/-- All lines that list names. -/
def lines : List String := letters ++ signs ++ forms ++ pictures

/-! ## Names that follow a rule -/

/-- The blocks of unified ideographs. -/
def ideographBlocks : List (Nat × Nat) :=
  [(0x3400, 0x4dbf), (0x4e00, 0x9fff), (0x20000, 0x2a6df), (0x2a700, 0x2b738),
    (0x2b740, 0x2b81d), (0x2b820, 0x2cea1), (0x2ceb0, 0x2ebe0), (0x30000, 0x3134a)]

/-- Whether a code is that of a unified ideograph. -/
def isIdeograph (code : Nat) : Bool :=
  ideographBlocks.any fun (first, last) => first ≤ code && code ≤ last

/-- The first, middle and last parts of syllables. -/
def leads : List String :=
  ["G", "GG", "N", "D", "DD", "R", "M", "B", "BB", "S", "SS", "", "J", "JJ", "C", "K", "T", "P",
    "H"]

@[inherit_doc leads]
def vowels : List String :=
  ["A", "AE", "YA", "YAE", "EO", "E", "YEO", "YE", "O", "WA", "WAE", "OE", "YO", "U", "WEO", "WE",
    "WI", "YU", "EU", "YI", "I"]

@[inherit_doc leads]
def tails : List String :=
  ["", "G", "GG", "GS", "N", "NJ", "NH", "D", "L", "LG", "LM", "LB", "LS", "LT", "LP", "LH", "M",
    "B", "BS", "S", "SS", "NG", "J", "C", "K", "T", "P", "H"]

/-- The code of the first syllable, and how many there are. -/
def firstSyllable : Nat := 0xac00

@[inherit_doc firstSyllable]
def syllableCount : Nat := 19 * 21 * 28

/-- The parts of a syllable. -/
def syllable (index : Nat) : String :=
  leads.getD (index / 588) "" ++ vowels.getD (index % 588 / 28) "" ++ tails.getD (index % 28) ""

/-- The code of a name that follows a rule. -/
def ruledCode? (name : String) : Option Nat :=
  if name.startsWith "CJK UNIFIED IDEOGRAPH-" then
    let digits := name.toList.drop 22
    let code := hexNumber digits
    if (digits.length == 4 || digits.length == 5)
        && digits.all (fun c => c.isDigit || ('A' ≤ c && c ≤ 'F')) && isIdeograph code then
      some code
    else none
  else if name.startsWith "HANGUL SYLLABLE " then
    let parts := String.ofList (name.toList.drop 16)
    ((List.range syllableCount).find? fun i => syllable i == parts).map (firstSyllable + ·)
  else none

/-- The name that a code has by a rule. -/
def ruledName? (code : Nat) : Option String :=
  if isIdeograph code then
    some ("CJK UNIFIED IDEOGRAPH-" ++ String.ofList ((Nat.toDigits 16 code).map Char.toUpper))
  else if firstSyllable ≤ code && code < firstSyllable + syllableCount then
    some ("HANGUL SYLLABLE " ++ syllable (code - firstSyllable))
  else none

end Name

/-- The character of a name; in a listed name small letters count as capital ones. -/
def named? (name : String) : Option Char :=
  match Name.ruledCode? name with
  | some code => some (charOf code)
  | none =>
    let wanted := String.ofList (name.toList.map Char.toUpper)
    let entries := Name.lines.findSome? fun line => (Name.ofLine line).find? (·.2 == wanted)
    let others := Name.others.findSome? fun (line : String) =>
      (line.splitOn ";").findSome? fun entry => (Name.ofOther entry).find? (·.2 == wanted)
    (entries.or others).map fun (code, _) => charOf code

/-- The name of a character. -/
def nameOf? (c : Char) : Option String :=
  match Name.ruledName? c.toNat with
  | some name => some name
  | none => (Name.lines.findSome? fun line => (Name.ofLine line).find? (·.1 == c.toNat)).map (·.2)

end SnippetRunner.Text
