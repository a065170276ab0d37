import SnippetRunner.Evaluation.Codec
import SnippetRunner.Evaluation.Fields
import SnippetRunner.Text.Blank
import SnippetRunner.Text.Identifier
import SnippetRunner.Text.LetterCase

/-!
# Methods of texts

Case, blanks, searching, cutting and joining. Byte strings share what does not depend on letters.
-/

namespace SnippetRunner.Evaluation

/-! ## Cutting -/

/-- The words of a text, at most `cuts` times cut; what is left then begins with a word. `fuel`
bounds their number. -/
def wordsOf (blank : Char → Bool) : Nat → Option Nat → List Char → List (List Char)
  | 0, _, _ => []
  | fuel + 1, cuts, cs =>
    let cs := cs.dropWhile blank
    if cs.isEmpty then []
    else if cuts == some 0 then [Text.dropTrailing blank cs]
    else
      let word := cs.takeWhile fun c => ! blank c
      word :: wordsOf blank fuel (cuts.map (· - 1)) (cs.drop word.length)

/-- The words of a text from its end, last one first, at most `cuts` times cut. -/
def lastWordsOf (blank : Char → Bool) (cuts : Option Nat) (cs : List Char) : List (List Char) :=
  (wordsOf blank (cs.length + 1) cuts cs.reverse).map List.reverse

/-- The first place of a text in another one; `fuel` bounds where it is looked for. -/
def findText (part s : List Char) : Nat → Option Nat
  | 0 => none
  | fuel + 1 =>
    if part.isPrefixOf s then some 0
    else match s with
      | [] => none
      | _ :: rest => (findText part rest fuel).map (· + 1)

/-- The last place of a text in another one. -/
def findLastText (part s : List Char) : Option Nat :=
  (findText part.reverse s.reverse (s.length + 1)).map (s.length - part.length - ·)

/-- The pieces of a text between separators, at most `cuts` times cut. -/
def splitAtMost (cuts : Option Nat) (separator s : String) : List String :=
  let pieces := s.splitOn separator
  match cuts with
  | none => pieces
  | some n =>
    if pieces.length ≤ n + 1 then pieces
    else pieces.take n ++ [String.intercalate separator (pieces.drop n)]

/-- The same from the end. -/
def splitLastAtMost (cuts : Option Nat) (separator s : String) : List String :=
  let turned (s : String) : String := String.ofList s.toList.reverse
  ((splitAtMost cuts (turned separator) (turned s)).map turned).reverse

/-- A text with pieces of it replaced, at most `cuts` times. -/
def replaced (cuts : Option Nat) (old new s : String) : String :=
  if old.isEmpty then
    let cs := s.toList
    let n := cuts.getD (cs.length + 1)
    let spread := (cs.take n).map fun c => new ++ c.toString
    String.join spread ++ String.ofList (cs.drop n) ++ if n ≤ cs.length then "" else new
  else String.intercalate new (splitAtMost cuts old s)

/-- Tabs replaced by blanks up to the next column that is a multiple of a width. -/
def tabsExpanded (width column : Nat) : List Char → List Char
  | [] => []
  | c :: rest =>
    if c == '\t' then
      let n := if width = 0 then 0 else width - column % width
      List.replicate n ' ' ++ tabsExpanded width (column + n) rest
    else c :: tabsExpanded width (if c == '\n' || c == '\r' then 0 else column + 1) rest

/-- Blanks on both sides of a text: those that are left when a width is not shared evenly stand
before it if the width is odd. -/
def centered (width : Nat) (fill : Char) (s : String) : String :=
  let missing := width - s.length
  let left := missing / 2 + missing % 2 * (width % 2)
  let blanks (n : Nat) : String := String.ofList (List.replicate n fill)
  blanks left ++ s ++ blanks (missing - left)

/-! ## Arguments -/

/-- How often to cut, where a negative number is no bound. -/
def cutsArgument (v : Value) : Native (Option Nat) := do
  let n ← sizeArgument v
  return if n < 0 then none else some n.toNat

/-- The characters that a strip removes: blanks, or those that are given. -/
def stripSet (owner : String) (args : List Value) : Native (Char → Bool) := do
  match args, (← Native.heap).text? (args.headD .none) with
  | [], _ | [.none], _ => return Text.isBlank
  | _, some s => return fun c => s.toList.contains c
  | _, none => Native.typeError s!"{owner} arg must be None or str"

/-- Whether a text starts or ends with one of the given ones. -/
def meets (owner : String) (test : String → Bool) (v : Value) : Native Bool := do
  let h ← Native.heap
  match h.core v with
  | .text part => return test part
  | .tuple parts => parts.anyM fun w => do
    match h.text? w with
    | some part => return test part
    | none => Native.typeError s!"tuple for {owner} must only contain str, not {h.typeName w}"
  | _ =>
    Native.typeError
      s!"{owner} first arg must be str or a tuple of str, not {h.typeName v}"

/-- The items of a row as texts. -/
def joinable (items : List Value) : Native (List String) := do
  let h ← Native.heap
  items.zipIdx.mapM fun (v, i) => do
    match h.text? v with
    | some s => return s
    | none =>
      Native.typeError s!"sequence item {i}: expected str instance, {h.typeName v} found"

/-- The width and the fill character of a text that is filled up. -/
def paddingArguments (args : List Value) : Native (Nat × Char) := do
  let width := (← sizeArgument (args.headD .none)).toNat
  let h ← Native.heap
  let fill ← match args.drop 1 with
    | [] => pure ' '
    | v :: _ =>
      match (h.text? v).map String.toList with
      | some [c] => pure c
      | some _ => Native.typeError "The fill character must be exactly one character long"
      | none =>
        Native.typeError
          s!"The fill character must be a unicode character, not {h.typeName v}"
  checkRoom width
  return (width, fill)

/-- The place of a text in a text, within bounds. -/
def placeOfText (find : List Char → List Char → Option Nat) (cs : List Char) (part : Value)
    (bounds : List Value) : Native (Option Nat) := do
  let part ← textArgument "" part
  let (start, within) ← window cs bounds
  if cs.length < start then return none
  else return (find part.toList within).map (start + ·)

/-- A separator, which must not be empty. -/
def separatorArgument (v : Value) : Native String := do
  let separator ← textArgument "" v
  if separator.isEmpty then Native.valueError "empty separator" else return separator

/-- The codec and what it does with errors, by their names. -/
def codecArguments (owner : String) (args : List Value) : Native (Codec × String) := do
  let word (n : Nat) (name standard : String) : Native String :=
    match args[n]? with
    | none => return standard
    | some v => textArgument s!"{owner}() argument '{name}' " v
  let name ← word 0 "encoding" "utf-8"
  let errors ← word 1 "errors" "strict"
  return (← codecOf (if owner == "decode" || owner == "str" then "decode" else "encode") name, errors)

/-! ## Tables of characters -/

/-- A table for `translate`. -/
def characterTable (args : List Value) : Native Value := do
  let h ← Native.heap
  let entries : List (Value × Value) ← match args with
    | [v] =>
      match h.mapping? v with
      | none => Native.typeError "if you give only one argument to maketrans it must be a dict"
      | some t => t.toList.mapM fun (k, w) => do
        match k with
        | .text s =>
          match s.toList with
          | [c] => return (.int (Text.codeOf c), w)
          | _ =>
            Native.valueError "string keys in translate table must be of length 1"
        | .int _ => return (k, w)
        | _ => Native.typeError "keys in translate table must be strings or integers"
    | source :: rest =>
      let first ← match h.text? source with
        | some s => pure s
        | none =>
          Native.typeError "first maketrans argument must be a string if there is a second argument"
      let second ← textArgument "maketrans() argument 2 " (rest.headD .none)
      if first.length ≠ second.length then
        Native.valueError "the first two maketrans arguments must have equal length"
      let removed ← match rest.drop 1 with
        | [] => pure ""
        | v :: _ => textArgument "maketrans() argument 3 " v
      pure ((first.toList.zip second.toList).map (fun (a, b) => (.int (Text.codeOf a), .int (Text.codeOf b)))
        ++ removed.toList.map fun c => (.int (Text.codeOf c), .none))
    | [] => pure []
  Native.allocate (.mapping (← Mapping.withEntries {} entries))

/-- What a table makes of a character. -/
def translatedCharacter (table : Value) (c : Char) : Native String := do
  let found : Option Value ← try
      let v ← itemOf table (.int (Text.codeOf c))
      pure (some v)
    catch
      | .fail error fresh => do
        if ← isOfKind error "LookupError" then pure none else throw (.fail error fresh)
      | halt => throw halt
  match found with
  | none => return c.toString
  | some .none => return ""
  | some (.text s) => return s
  | some v =>
    match v.int? with
    | some n =>
      if 0 ≤ n ∧ n < 0x110000 then return (Text.charOf n.toNat).toString
      else Native.valueError "character mapping must be in range(0x110000)"
    | none => Native.typeError "character mapping must return integer, None or str"

/-! ## Methods -/

/-- What a test of all characters says about a text. -/
def textTest? (s : String) (name : String) : Option Bool :=
  let cs := s.toList
  let all (p : Char → Bool) : Bool := ! cs.isEmpty && cs.all p
  match name with
  | "isdigit" => some (all Text.isAnyDigit)
  | "isdecimal" => some (all Text.isDecimalDigit)
  | "isnumeric" => some (all Text.isNumeral)
  | "isalpha" => some (all Text.isLetter)
  | "isalnum" => some (all Text.isLetterOrNumeral)
  | "isspace" => some (all Text.isBlank)
  | "isascii" => some (cs.all fun c => c.toNat < 128)
  | "isprintable" => some (cs.all Text.isPrintable)
  | "islower" => some (Text.isAllSmall s)
  | "isupper" => some (Text.isAllCapital s)
  | "istitle" => some (Text.isTitled s)
  | "isidentifier" => some (Text.isIdentifier s)
  | _ => none

/-- A text in another form without arguments. -/
def textForm? (s : String) (name : String) : Option String :=
  match name with
  | "upper" => some (Text.upper s)
  | "lower" => some (Text.lower s)
  | "capitalize" => some (Text.capitalize s)
  | "casefold" => some (Text.foldCase s)
  | "swapcase" => some (Text.swapCase s)
  | "title" => some (Text.titled s)
  | _ => none

/-- The pieces of a text that is cut, from its start or from its end. -/
def splitText (s : String) (fromEnd : Bool) (args : List Value) : Native (List String) := do
  let cuts ← cutsArgument ((args[1]?).getD (.int (-1)))
  let cs := s.toList
  match args.headD .none, (← Native.heap).text? (args.headD .none) with
  | .none, _ =>
    let words := if fromEnd then (lastWordsOf Text.isBlank cuts cs).reverse
      else wordsOf Text.isBlank (cs.length + 1) cuts cs
    return words.map String.ofList
  | _, some "" => Native.valueError "empty separator"
  | _, some separator =>
    return if fromEnd then splitLastAtMost cuts separator s else splitAtMost cuts separator s
  | v, none => Native.typeError s!"must be str or None, not {← argumentType v}"

/-- The three parts that a separator cuts a text into, if it is found at a place. -/
def partsAround (s separator : String) (place : Option Nat) (atEnd : Bool) : Value :=
  let cut (n m : Nat) : Value := .text (String.ofList ((s.toList.take m).drop n))
  match place, atEnd with
  | some i, _ => .tuple [cut 0 i, .text separator, cut (i + separator.length) s.length]
  | none, true => .tuple [.text "", .text "", .text s]
  | none, false => .tuple [.text s, .text "", .text ""]

/-- The first and the last place of a text in another one. -/
def findFirst (part s : List Char) : Option Nat := findText part s (s.length + 1)

/-- A method of a text. -/
def textMethod (s : String) (name : String) (args : List Value) (keywords : Table) :
    Native Value := do
  let cs := s.toList
  let found (find : List Char → List Char → Option Nat) (part : Value) (bounds : List Value) :
      Native (Option Nat) := placeOfText find cs part bounds
  match textForm? s name, textTest? s name, name, args with
  | some t, _, _, _ => return .text t
  | _, some b, _, _ => return .bool b
  | _, _, "strip", _ => return .text (Text.stripWhere (← stripSet "strip" args) s)
  | _, _, "lstrip", _ => return .text (String.ofList (cs.dropWhile (← stripSet "lstrip" args)))
  | _, _, "rstrip", _ =>
    return .text (String.ofList (Text.dropTrailing (← stripSet "rstrip" args) cs))
  | _, _, "join", [items] =>
    if ! (← Native.heap).isIterable items then Native.typeError "can only join an iterable"
    return .text (String.intercalate s (← joinable (← itemsOf items)))
  | _, _, "split", _ => newList ((← splitText s false args).map .text)
  | _, _, "rsplit", _ => newList ((← splitText s true args).map .text)
  | _, _, "splitlines", _ =>
    let keep ← wordArgument (args.headD (.int 0))
    newList ((Text.displayLines s).map fun line =>
      .text (if keep = 0 then Text.withoutBreak line else line))
  | _, _, "partition", [v] =>
    let separator ← separatorArgument v
    return partsAround s separator (findFirst separator.toList cs) false
  | _, _, "rpartition", [v] =>
    let separator ← separatorArgument v
    return partsAround s separator (findLastText separator.toList cs) true
  | _, _, "replace", old :: new :: rest =>
    let old ← textArgument "replace() argument 1 " old
    let new ← textArgument "replace() argument 2 " new
    return .text (replaced (← cutsArgument (rest.headD (.int (-1)))) old new s)
  | _, _, "removeprefix", [v] =>
    let part ← textArgument "removeprefix() argument " v
    return .text (if part.toList.isPrefixOf cs then String.ofList (cs.drop part.length) else s)
  | _, _, "removesuffix", [v] =>
    let part ← textArgument "removesuffix() argument " v
    return .text
      (if part.toList.isSuffixOf cs then String.ofList (cs.take (cs.length - part.length)) else s)
  | _, _, "startswith", part :: bounds =>
    let (start, within) ← window cs bounds
    return .bool (← meets "startswith"
      (fun t => t.toList.isPrefixOf within && (start ≤ cs.length)) part)
  | _, _, "endswith", part :: bounds =>
    let (start, within) ← window cs bounds
    return .bool (← meets "endswith"
      (fun t => t.toList.isSuffixOf within && (start ≤ cs.length)) part)
  | _, _, "find", part :: bounds =>
    return .int (((← found findFirst part bounds).map Int.ofNat).getD (-1))
  | _, _, "rfind", part :: bounds =>
    return .int (((← found findLastText part bounds).map Int.ofNat).getD (-1))
  | _, _, "index", part :: bounds =>
    match ← found findFirst part bounds with
    | some i => return .int i
    | none => Native.valueError "substring not found"
  | _, _, "rindex", part :: bounds =>
    match ← found findLastText part bounds with
    | some i => return .int i
    | none => Native.valueError "substring not found"
  | _, _, "count", part :: bounds =>
    let part ← textArgument "" part
    let (start, within) ← window cs bounds
    return .int (if part.isEmpty then (if cs.length < start then 0 else within.length + 1)
      else ((String.ofList within).splitOn part).length - 1)
  | _, _, "expandtabs", _ =>
    let width ← wordArgument (args.headD (.int 8))
    return .text (String.ofList (tabsExpanded width.toNat 0 cs))
  | _, _, "zfill", [width] =>
    let (sign, digits) := match cs with
      | '-' :: rest => ("-", rest)
      | '+' :: rest => ("+", rest)
      | _ => ("", cs)
    let width := (← sizeArgument width).toNat - sign.length
    checkRoom width
    return .text (sign ++ Text.padLeft width '0' (String.ofList digits))
  | _, _, "ljust", _ =>
    let (width, fill) ← paddingArguments args
    return .text (s ++ String.ofList (List.replicate (width - cs.length) fill))
  | _, _, "rjust", _ =>
    let (width, fill) ← paddingArguments args
    return .text (Text.padLeft width fill s)
  | _, _, "center", _ =>
    let (width, fill) ← paddingArguments args
    return .text (centered width fill s)
  | _, _, "encode", _ =>
    let (codec, errors) ← codecArguments "encode" args
    return .bytes (← encoded s codec errors)
  | _, _, "translate", [table] =>
    return .text (String.join (← cs.mapM (translatedCharacter table)))
  | _, _, "format", _ =>
    let named ← Native.allocate (.mapping (.ofTable keywords))
    fillFields s ⟨some args, named⟩
  | _, _, "format_map", [mapping] => fillFields s ⟨none, mapping⟩
  | _, _, _, _ => Native.unavailable name

end SnippetRunner.Evaluation
