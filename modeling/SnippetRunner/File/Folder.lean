import SnippetRunner.Data
import SnippetRunner.Text.Utf8

/-!
# Paths and folders

Where a file is, as names that lead from folder to folder. Empty names and names for the same
folder are left out; the name for the folder above is kept. Just two slashes at the start are kept
as two, though they lead to the top as one does.

A folder holds all files that are known, each with its path, from the current folder or from the
top. A folder is there when a file is in it, directly or deeper.
-/

namespace SnippetRunner.File

/-- A path, from the top of all folders or from the current one. -/
structure Path where
  absolute : Bool := false
  /-- Whether a path from the top is written with two slashes. -/
  doubled : Bool := false
  names : List String := []
  deriving Repr, DecidableEq, Inhabited

namespace Path

/-- Reads a path. -/
def ofText (s : String) : Path :=
  { absolute := s.startsWith "/"
    doubled := s.startsWith "//" && ! s.startsWith "///"
    names := (s.splitOn "/").filter fun name => name != "" && name != "." }

/-- A path as it is written. -/
def text (p : Path) : String :=
  if p.absolute then (if p.doubled then "//" else "/") ++ String.intercalate "/" p.names
  else if p.names.isEmpty then "."
  else String.intercalate "/" p.names

/-- The path of the folder that the names lead from. -/
def start (p : Path) : Path := { absolute := p.absolute }

/-- The path of a name inside a folder. -/
def child (p : Path) (name : String) : Path := { p with names := p.names ++ [name] }

/-- The suffix of a name, from its last point on. A name neither begins nor ends with its
suffix's point. -/
def suffixOf (name : String) : String :=
  let cs := name.toList
  let after := (cs.reverse.takeWhile (· != '.')).reverse
  let before := cs.take (cs.length - after.length - 1)
  if after.length = cs.length || after.isEmpty || before.isEmpty then ""
  else String.ofList ('.' :: after)

/-- The suffix of the last name. -/
def suffix (p : Path) : String := suffixOf (p.names.getLastD "")

end Path

/-- The files that are known. -/
structure Folder where
  files : List (Path × List UInt8) := []
  deriving Inhabited

/-- Why a file cannot be opened. -/
inductive Fault where
  | absent
  | isFolder
  /-- Something on the way to it is a file. -/
  | notFolder
  | nameTooLong
  deriving Repr, DecidableEq

/-- How many bytes a name may have. -/
def nameLimit : Nat := 255

/-- How many bytes a path may have. -/
def pathLimit : Nat := 4095

/-- The message for a file that cannot be opened. -/
def Fault.message (path : Path) (fault : Fault) : String :=
  let words := match fault with
    | .absent => "[Errno 2] No such file or directory: "
    | .isFolder => "[Errno 21] Is a directory: "
    | .notFolder => "[Errno 20] Not a directory: "
    | .nameTooLong => "[Errno 36] File name too long: "
  words ++ Text.quoted path.text

namespace Folder

/-- The content of a file. -/
def file? (f : Folder) (p : Path) : Option (List UInt8) := f.files.lookup p

/-- Whether a path leads to a folder: the current one, the top one, or one that holds a file. -/
def isFolder (f : Folder) (p : Path) : Bool :=
  p.names.isEmpty || f.files.any fun (place, _) =>
    place.absolute == p.absolute && p.names.isPrefixOf place.names && p != place

/-- The folder above; none is known above the current one, and there is none above the top. -/
def above (p : Path) : Option Path :=
  if ! p.names.isEmpty then some { p with names := p.names.dropLast }
  else if p.absolute then some p
  else none

/-- Opens what is reached from some folder by names. In folders that are not known there are only
folders above, and nothing by name. -/
def openFrom (f : Folder) : Option Path → List String → Except Fault (List UInt8)
  | none, [] => .error .isFolder
  | none, ".." :: rest => f.openFrom none rest
  | none, name :: _ => .error (if nameLimit < name.utf8ByteSize then .nameTooLong else .absent)
  | some here, rest =>
    match f.file? here with
    | some bytes => if rest.isEmpty then .ok bytes else .error .notFolder
    | none =>
      if ! f.isFolder here then .error .absent
      else match rest with
        | [] => .error .isFolder
        | ".." :: more => f.openFrom (above here) more
        | name :: more =>
          if nameLimit < name.utf8ByteSize then .error .nameTooLong
          else f.openFrom (some (here.child name)) more

/-- The bytes of the file at a path. -/
def read (f : Folder) (p : Path) : Except Fault (List UInt8) :=
  if pathLimit < p.text.utf8ByteSize then .error .nameTooLong
  else f.openFrom (some p.start) p.names

/-- Whether there is something at a path. Of a name that is too long it is not known. -/
def contains (f : Folder) (p : Path) : Except Problem Bool :=
  match f.read p with
  | .ok _ | .error .isFolder => .ok true
  | .error .nameTooLong => .error ⟨"OSError", Fault.nameTooLong.message p⟩
  | .error _ => .ok false

/-- Puts a file into its folder; what was there under its name is lost. -/
def write (f : Folder) (p : Path) (bytes : List UInt8) : Folder :=
  { files := (p, bytes) :: f.files.filter (·.1 != p) }

end Folder

/-! ## Text files -/

/-- Line breaks of every kind as single newlines. -/
def unifyLines : List Char → List Char
  | '\r' :: '\n' :: rest => '\n' :: unifyLines rest
  | '\r' :: rest => '\n' :: unifyLines rest
  | c :: rest => c :: unifyLines rest
  | [] => []

/-- Reads the bytes of a text file. -/
def textOf (bytes : List UInt8) : Except Text.Utf8Error String :=
  (Text.decodeUtf8 bytes).map fun s => String.ofList (unifyLines s.toList)

/-! ## Reading a text bit by bit

The characters of a text file are handed out in blocks. The bytes for them are fetched in pieces,
and a character that is cut off at the end of a piece waits for the next one. A broken byte is
noticed when its piece is fetched, and its place is counted from the start of what is decoded then.
-/

/-- A text file that is being read. -/
structure Stream where
  /-- The bytes that are not fetched yet. -/
  bytes : List UInt8
  /-- The bytes of a character that is cut off. -/
  held : List UInt8 := []
  /-- Whether a carriage return was fetched that may belong to a line feed. -/
  returned : Bool := false
  /-- The characters that are not handed out yet. -/
  ready : List Char := []
  /-- The numbers of bytes and of characters in the piece that was fetched last. -/
  last : Nat × Nat := (1, 1)

namespace Stream

/-- The least number of bytes that are fetched at once. -/
def pieceSize : Nat := 8192

/-- The number of characters in a block. -/
def blockSize : Nat := 4096

/-- Decodes bytes; those of a character that is cut off at their end are left, unless these are
the last ones. -/
def decode (final : Bool) (bytes : List UInt8) :
    Except Text.Utf8Error (List Char × List UInt8) :=
  match Text.decodeFrom 0 0 bytes with
  | .ok cs => .ok (cs, [])
  | .error e =>
    if final || e.fault ≠ .unexpectedEnd then .error e
    else do return (← Text.decodeFrom 0 0 (bytes.take e.position), bytes.drop e.position)

/-- The number of bytes to fetch for some characters, of which each takes as many as in the last
piece. -/
def sizeFor (s : Stream) (wanted : Nat) : Nat :=
  let (bytes, characters) := s.last
  max pieceSize (if characters < bytes then wanted * bytes / characters else wanted)

/-- Fetches a piece for some characters. -/
def fetch (s : Stream) (wanted : Nat) : Except Text.Utf8Error Stream := do
  let size := s.sizeFor wanted
  let piece := s.bytes.take size
  let final := piece.isEmpty
  let (cs, held) ← decode final (s.held ++ piece)
  let cs := if s.returned && (final || ! cs.isEmpty) then '\r' :: cs else cs
  let returned := ! final && (cs.getLast? == some '\r' || (s.returned && cs.isEmpty))
  let cs := if returned then cs.dropLast else cs
  let cs := unifyLines cs
  return { bytes := s.bytes.drop size, held, returned, ready := s.ready ++ cs
           last := (piece.length, cs.length) }

/-- Fetches pieces until a block is ready or the file ends; `fuel` is above the number of bytes. -/
def fetchBlock (s : Stream) : Nat → Except Text.Utf8Error Stream
  | 0 => .ok s
  | fuel + 1 => do
    let missing := blockSize - s.ready.length
    if missing = 0 then return s
    else
      let next ← s.fetch missing
      if s.bytes.isEmpty then return next else next.fetchBlock fuel

/-- The blocks up to the end of a file or to a byte that is broken. -/
def blocksFrom (s : Stream) : Nat → List (List Char) × Option Text.Utf8Error
  | 0 => ([], none)
  | fuel + 1 =>
    match s.fetchBlock (s.bytes.length + 1) with
    | .error e => ([], some e)
    | .ok next =>
      if next.ready.isEmpty then ([], none)
      else
        let after := { next with ready := next.ready.drop blockSize }
        let (blocks, fault) := after.blocksFrom fuel
        (next.ready.take blockSize :: blocks, fault)

end Stream

/-- The blocks of a text file, and the broken byte after them if there is one. -/
def blocksOf (bytes : List UInt8) : List (List Char) × Option Text.Utf8Error :=
  ({ bytes : Stream }).blocksFrom (bytes.length + 1)

end SnippetRunner.File
