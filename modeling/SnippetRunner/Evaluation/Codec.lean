import SnippetRunner.Evaluation.Conversion
import SnippetRunner.Snippet.Literal
import SnippetRunner.Text.Encoding

/-!
# Codecs

Texts as bytes and back by the name of a codec. What a codec has no place for is refused, left out
or replaced.
-/

namespace SnippetRunner.Evaluation

/-- A way to write a text as bytes. -/
inductive Codec where
  /-- One to four bytes for a character, maybe behind a mark. -/
  | utf8 (marked : Bool)
  /-- Units of two or four bytes; the order of the bytes is given, or a mark tells it. -/
  | wide (size : Nat) (bigFirst : Option Bool)
  /-- One byte for each of the first characters. -/
  | narrow (name : String) (limit : Nat)
  /-- One byte for each of the first characters and some others. -/
  | western
  /-- Escapes for all characters but plain ones. -/
  | escapes
  deriving Repr, DecidableEq

namespace Codec

/-- A name without what does not count in it. -/
def plainName (name : String) : String :=
  String.ofList ((name.toList.map Char.toLower).filter Char.isAlphanum)

/-- The codecs with their plain names. -/
def names : List (Codec × List String) :=
  [(.utf8 false, ["utf8", "u8", "utf", "utf8ucs2", "utf8ucs4", "cp65001"]),
    (.utf8 true, ["utf8sig"]),
    (.narrow "ascii" 128, ["ascii", "usascii", "646", "us", "iso646us", "ansix341968"]),
    (.narrow "latin-1" 256, ["latin1", "latin", "iso88591", "8859", "cp819", "l1", "iso8859",
      "isoir100", "csisolatin1", "ibm819"]),
    (.wide 2 none, ["utf16", "u16"]), (.wide 2 (some false), ["utf16le", "unicodelittleunmarked"]),
    (.wide 2 (some true), ["utf16be", "unicodebigunmarked"]),
    (.wide 4 none, ["utf32", "u32"]), (.wide 4 (some false), ["utf32le"]),
    (.wide 4 (some true), ["utf32be"]),
    (.western, ["cp1252", "windows1252", "1252"]), (.escapes, ["unicodeescape"])]

/-- The codec of a name. -/
def ofName? (name : String) : Option Codec :=
  (names.find? fun (_, known) => known.contains (plainName name)).map (·.1)

/-- Names of codecs that are not between texts and bytes. -/
def otherNames : List String :=
  ["rot13", "hex", "hexcodec", "base64", "base64codec", "zlib", "zlibcodec", "bz2", "bz2codec",
    "uu", "uucodec", "quopri", "quopricodec", "zip"]

/-- The name that a codec has in complaints. -/
def name : Codec → String
  | .utf8 _ => "utf-8"
  | .wide size bigFirst =>
    let order := match bigFirst with
      | none => ""
      | some big => if big then "-be" else "-le"
    (if size = 2 then "utf-16" else "utf-32") ++ order
  | .narrow name _ => name
  | .western => "charmap"
  | .escapes => "unicodeescape"

/-- Why a codec has no place for something. -/
def reason : Codec → String
  | .narrow _ limit => s!"ordinal not in range({limit})"
  | .western => "character maps to <undefined>"
  | _ => "surrogates not allowed"

/-- The codes of the bytes from `0x80` on in the western codec; zero where a byte stands for
nothing. -/
def westernCodes : List Nat :=
  [0x20ac, 0, 0x201a, 0x192, 0x201e, 0x2026, 0x2020, 0x2021, 0x2c6, 0x2030, 0x160, 0x2039, 0x152,
    0, 0x17d, 0, 0, 0x2018, 0x2019, 0x201c, 0x201d, 0x2022, 0x2013, 0x2014, 0x2dc, 0x2122, 0x161,
    0x203a, 0x153, 0, 0x17e, 0x178]

/-- The character of a byte in the western codec. -/
def westernChar? (b : UInt8) : Option Char :=
  if b.toNat < 0x80 || 0xa0 ≤ b.toNat then some (Char.ofNat b.toNat)
  else match westernCodes[b.toNat - 0x80]? with
    | some 0 | none => none
    | some code => some (Char.ofNat code)

/-- The bytes of a number, in a given order. -/
def unitBytes (size : Nat) (bigFirst : Bool) (n : Nat) : List UInt8 :=
  let low := (List.range size).map fun i => (n / Nat.pow 256 i % 256).toUInt8
  if bigFirst then low.reverse else low

/-- The bytes of a code in units of a size. -/
def wideBytes (size : Nat) (bigFirst : Bool) (code : Nat) : List UInt8 :=
  if size = 2 ∧ 0x10000 ≤ code then
    unitBytes 2 bigFirst (0xd800 + (code - 0x10000) / 0x400)
      ++ unitBytes 2 bigFirst (0xdc00 + (code - 0x10000) % 0x400)
  else unitBytes size bigFirst code

/-- The escape of a character, if it is no plain one. -/
def escaped (c : Char) : String :=
  if c == '\\' then "\\\\"
  else if c == '\t' then "\\t"
  else if c == '\n' then "\\n"
  else if c == '\r' then "\\r"
  else if 0x20 ≤ c.toNat && c.toNat < 0x7f then c.toString
  else Text.numberEscape c

/-- The bytes of a character; none if the codec has no place for it. -/
def bytesOf? (codec : Codec) (c : Char) : Option (List UInt8) :=
  match codec with
  | .utf8 _ => if (Text.halfOf? c).isSome then none else some (Text.encodeUtf8 c.toString)
  | .wide size bigFirst =>
    if (Text.halfOf? c).isSome then none else some (wideBytes size (bigFirst.getD false) c.toNat)
  | .narrow _ limit => if c.toNat < limit then some [c.toNat.toUInt8] else none
  | .western =>
    if c.toNat < 0x80 || (0xa0 ≤ c.toNat && c.toNat ≤ 0xff) then some [c.toNat.toUInt8]
    else if c.toNat = 0 then none
    else (westernCodes.findIdx? (· == c.toNat)).map fun i => [(0x80 + i).toUInt8]
  | .escapes => some (Text.encodeUtf8 (escaped c))

/-- The bytes in front of a text. -/
def mark : Codec → List UInt8
  | .utf8 true => [0xef, 0xbb, 0xbf]
  | .wide size none => unitBytes size false 0xfeff
  | _ => []

/-- The bytes of half of a pair, as if it were a character. -/
def halfBytes? (codec : Codec) (code : Nat) : Option (List UInt8) :=
  match codec with
  | .utf8 _ =>
    some [(0xe0 + code / 0x1000).toUInt8, (0x80 + code / 64 % 64).toUInt8,
      (0x80 + code % 64).toUInt8]
  | .wide size bigFirst => some (unitBytes size (bigFirst.getD false) code)
  | _ => none

end Codec

/-- The codec of a name; others are unknown. -/
def codecOf (verb name : String) : Native Codec :=
  match Codec.ofName? name with
  | some codec => return codec
  | none =>
    if Codec.otherNames.contains (Codec.plainName name) then
      Native.fail "LookupError" (s!"'{name}' is not a text encoding; use codecs.{verb}() to handle "
        ++ "arbitrary codecs")
    else Native.fail "LookupError" s!"unknown encoding: {name}"

/-- The error of a codec: what was given, which part of it has no place, and why. -/
def codecFault {α : Type} (kind codec : String) (object : Value) (start stop : Nat)
    (reason : String) : Native α :=
  Native.failAbout kind [.text codec, object, .int start, .int stop, .text reason]
    [("encoding", .text codec), ("object", object), ("start", .int start),
      ("end", .int stop), ("reason", .text reason)]

/-- The error of an unknown way to handle errors. -/
def unknownHandler {α : Type} (errors : String) : Native α :=
  Native.fail "LookupError" s!"unknown error handler name '{errors}'"

/-! ## Writing -/

/-- What stands for a character that a codec has no place for; none if it is refused. -/
def replacement? (codec : Codec) (errors : String) (c : Char) : Native (Option (List UInt8)) := do
  let written (s : String) : List UInt8 :=
    (s.toList.map fun c => (codec.bytesOf? c).getD []).flatten
  match errors with
  | "strict" => return none
  | "ignore" => return some []
  | "replace" => return some (written "?")
  | "xmlcharrefreplace" => return some (written s!"&#{Text.codeOf c};")
  | "backslashreplace" => return some (written (Text.numberEscape c))
  | "namereplace" =>
    return some (written (match Text.nameOf? c with
      | some name => "\\N\x7b" ++ name ++ "\x7d"
      | none => Text.numberEscape c))
  | "surrogateescape" =>
    return (Text.halfOf? c).bind fun code =>
      if 0xdc80 ≤ code ∧ code ≤ 0xdcff then some [(code - 0xdc00).toUInt8] else none
  | "surrogatepass" => return (Text.halfOf? c).bind codec.halfBytes?
  | _ => unknownHandler errors

/-- Characters of a text as bytes; `fuel` bounds their number, and `position` counts those
before. -/
def encodedFrom (s : String) (codec : Codec) (errors : String) :
    Nat → Nat → List Char → Native (List UInt8)
  | 0, _, _ => return []
  | fuel + 1, position, cs => do
    let fitting := cs.takeWhile fun c => (codec.bytesOf? c).isSome
    let before := (fitting.map fun c => (codec.bytesOf? c).getD []).flatten
    let rest := cs.drop fitting.length
    if rest.isEmpty then return before
    let start := position + fitting.length
    let bad := rest.takeWhile fun c => (codec.bytesOf? c).isNone
    let replaced ← bad.mapM (replacement? codec errors)
    if replaced.any Option.isNone then
      codecFault "UnicodeEncodeError" codec.name (.text s) start (start + bad.length) codec.reason
    let after ← encodedFrom s codec errors fuel (start + bad.length) (rest.drop bad.length)
    return before ++ (replaced.map (·.getD [])).flatten ++ after

/-- A text as bytes. -/
def encoded (s : String) (codec : Codec) (errors : String) : Native (List UInt8) := do
  if codec == .utf8 false && ! Text.holdsHalf s then return Text.encodeUtf8 s
  return codec.mark ++ (← encodedFrom s codec errors (s.length + 1) 0 s.toList)

/-! ## Reading -/

/-- Bytes without a meaning: their position and number, and why they have none. -/
structure Unreadable where
  position : Nat
  length : Nat
  reason : String

/-- The characters of units of two bytes up to one without a meaning. -/
def readPairs (bigFirst : Bool) : Nat → List UInt8 → List Char × Option Unreadable
  | _, [] => ([], none)
  | position, [_] => ([], some ⟨position, 1, "truncated data"⟩)
  | position, a :: b :: rest =>
    let first := Text.numberOf bigFirst [a, b]
    if ! Text.isHalf first then
      let (cs, fault?) := readPairs bigFirst (position + 2) rest
      (Char.ofNat first :: cs, fault?)
    else if 0xdc00 ≤ first then ([], some ⟨position, 2, "illegal encoding"⟩)
    else match rest with
      | c :: d :: more =>
        let second := Text.numberOf bigFirst [c, d]
        if 0xdc00 ≤ second && second ≤ 0xdfff then
          let (cs, fault?) := readPairs bigFirst (position + 4) more
          (Char.ofNat (0x10000 + (first - 0xd800) * 0x400 + (second - 0xdc00)) :: cs, fault?)
        else ([], some ⟨position, 2, "illegal UTF-16 surrogate"⟩)
      | _ => ([], some ⟨position, 2 + rest.length, "unexpected end of data"⟩)

/-- The characters of units of four bytes up to one without a meaning. -/
def readFours (bigFirst : Bool) : Nat → List UInt8 → List Char × Option Unreadable
  | _, [] => ([], none)
  | position, a :: b :: c :: d :: rest =>
    let code := Text.numberOf bigFirst [a, b, c, d]
    if Text.isHalf code then
      ([], some ⟨position, 4, "code point in surrogate code point range(0xd800, 0xe000)"⟩)
    else if 0x10ffff < code then
      ([], some ⟨position, 4, "code point not in range(0x110000)"⟩)
    else
      let (cs, fault?) := readFours bigFirst (position + 4) rest
      (Char.ofNat code :: cs, fault?)
  | position, rest => ([], some ⟨position, rest.length, "truncated data"⟩)

/-- The characters of single bytes up to one without a meaning. -/
def readSingles (read? : UInt8 → Option Char) (reason : String) :
    Nat → List UInt8 → List Char × Option Unreadable
  | _, [] => ([], none)
  | position, b :: rest =>
    match read? b with
    | none => ([], some ⟨position, 1, reason⟩)
    | some c =>
      let (cs, fault?) := readSingles read? reason (position + 1) rest
      (c :: cs, fault?)

/-- The characters of bytes from a position on, up to some without a meaning. -/
def Codec.readFrom (codec : Codec) (position : Nat) (bs : List UInt8) :
    List Char × Option Unreadable :=
  match codec with
  | .utf8 _ =>
    match Text.decodeUtf8 bs with
    | .ok s => (s.toList, none)
    | .error e =>
      let before := match Text.decodeUtf8 (bs.take e.position) with
        | .ok s => s.toList
        | .error _ => []
      (before, some ⟨position + e.position, e.length, e.fault.reason⟩)
  | .wide size bigFirst =>
    if size = 2 then readPairs (bigFirst.getD false) position bs
    else readFours (bigFirst.getD false) position bs
  | .narrow _ limit =>
    readSingles (fun b => if b.toNat < limit then some (Char.ofNat b.toNat) else none)
      codec.reason position bs
  | .western => readSingles westernChar? codec.reason position bs
  | .escapes =>
    let text := (latinText bs).toList
    match Snippet.unescape (text.length + 1) 0 text with
    | .ok cs => (cs, none)
    | .error e => ([], some ⟨e.first, e.last + 1 - e.first, e.reason⟩)

/-- What stands for bytes without a meaning, and how many of them it stands for; none if they are
refused. -/
def readReplacement? (codec : Codec) (errors : String) (bad following : List UInt8) :
    Native (Option (String × Nat)) := do
  match errors with
  | "strict" => return none
  | "ignore" => return some ("", bad.length)
  | "replace" => return some ("\ufffd", bad.length)
  | "backslashreplace" =>
    return some (String.join (bad.map fun b => "\\x" ++ Text.hexPadded 2 b.toNat), bad.length)
  | "surrogateescape" =>
    let high := bad.takeWhile fun b => 0x80 ≤ b.toNat
    if high.isEmpty then return none
    let halves := high.map fun b => Text.charOf (0xdc00 + b.toNat)
    return some (String.ofList halves, high.length)
  | "surrogatepass" =>
    match codec, following with
    | .utf8 _, 0xed :: b :: c :: _ =>
      if 0xa0 ≤ b.toNat && b.toNat < 0xc0 && 0x80 ≤ c.toNat && c.toNat < 0xc0 then
        let code := 0xd000 + (b.toNat - 0x80) * 64 + (c.toNat - 0x80)
        return some ((Text.charOf code).toString, 3)
      else return none
    | .wide size bigFirst, _ =>
      let code := Text.numberOf (bigFirst.getD false) (following.take size)
      if size ≤ following.length && Text.isHalf code then
        return some ((Text.charOf code).toString, size)
      else return none
    | _, _ => return none
  | "xmlcharrefreplace" | "namereplace" =>
    Native.typeError "don't know how to handle UnicodeDecodeError in error callback"
  | _ => unknownHandler errors

/-- Bytes as a text from a position on; `fuel` bounds their number. -/
def decodedFrom (all : List UInt8) (codec : Codec) (errors : String) :
    Nat → Nat → Native String
  | 0, _ => return ""
  | fuel + 1, position => do
    match codec.readFrom position (all.drop position) with
    | (cs, none) => return String.ofList cs
    | (cs, some fault) =>
      let following := all.drop fault.position
      match ← readReplacement? codec errors (following.take fault.length) following with
      | none =>
        codecFault "UnicodeDecodeError" codec.name (.bytes all) fault.position
          (fault.position + fault.length) fault.reason
      | some (shown, length) =>
        let after ← decodedFrom all codec errors fuel (fault.position + length)
        return String.ofList cs ++ shown ++ after

/-- The codec by a mark at the start of some bytes, and how many bytes the mark takes. -/
def Codec.marked (codec : Codec) (bs : List UInt8) : Codec × Nat :=
  match codec, bs with
  | .utf8 true, 0xef :: 0xbb :: 0xbf :: _ => (codec, 3)
  | .wide 4 none, 0xff :: 0xfe :: 0 :: 0 :: _ => (.wide 4 (some false), 4)
  | .wide 4 none, 0 :: 0 :: 0xfe :: 0xff :: _ => (.wide 4 (some true), 4)
  | .wide 2 none, 0xff :: 0xfe :: _ => (.wide 2 (some false), 2)
  | .wide 2 none, 0xfe :: 0xff :: _ => (.wide 2 (some true), 2)
  | .wide size none, _ => (.wide size (some false), 0)
  | _, _ => (codec, 0)

/-- Bytes as a text. -/
def decoded (bs : List UInt8) (codec : Codec) (errors : String) : Native String := do
  let (codec, start) := codec.marked bs
  decodedFrom bs codec errors (bs.length + 1) start

end SnippetRunner.Evaluation
