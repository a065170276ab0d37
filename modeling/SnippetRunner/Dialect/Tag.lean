import SnippetRunner.Data
import SnippetRunner.Text.Blank
import SnippetRunner.Text.LetterCase

/-!
# Dialects and their tags

A request names its dialect by a tag. A tag is read without regard to case and to blanks around
it; a tag that names no dialect means the native one, which runs as it is. A foreign dialect has
to be transpiled first.
-/

namespace SnippetRunner

/-- The dialects the runner knows. -/
inductive Dialect where
  | python
  | coconut
  deriving Repr, DecidableEq, Inhabited

namespace Dialect

/-- A dialect's own name. -/
def name : Dialect → String
  | .python => "python"
  | .coconut => "coconut"

/-- All dialects, the native one first. -/
def all : List Dialect := [.python, .coconut]

/-- The dialect of a name. -/
def ofName? (name : String) : Option Dialect := all.find? (·.name == name)

/-- Whether a dialect has to be transpiled. -/
def isForeign : Dialect → Bool
  | .python => false
  | .coconut => true

/-- The foreign dialects, by name. -/
def foreign : List Dialect := all.filter isForeign

/-- The names a tag may give a dialect, in lower case. -/
def aliases : List (String × Dialect) :=
  [("", .python), ("python", .python), ("py", .python), ("native", .python),
    ("coconut", .coconut), ("coco", .coconut)]

/-- The dialect of a file, by its suffix; native for an unknown one. -/
def ofSuffix (suffix : String) : Dialect :=
  let lower := Text.lower suffix
  if lower == ".coco" then .coconut else .python

end Dialect

/-- A tag that is neither empty nor text. -/
structure BadTag where
  typeName : String
  deriving Repr, DecidableEq

/-- What a caller is told about such a tag. -/
def BadTag.problem (bad : BadTag) : Problem :=
  ⟨"AttributeError", s!"'{bad.typeName}' object has no attribute 'strip'"⟩

/-- A tag without blanks around it and in lower case; a value that counts as false is no tag. -/
def normalizeTag (tag : Data) : Except BadTag Data :=
  if ! tag.isTrue then .ok (.text "")
  else match tag with
    | .text s => .ok (.text (Text.lower (Text.strip s)))
    | .bytes bs =>
      let chars := bs.map fun b => Char.ofNat b.toNat
      let inner := Text.dropTrailing Text.isAsciiBlank (Text.dropLeading Text.isAsciiBlank chars)
      .ok (.bytes (inner.map fun c => c.toLower.toNat.toUInt8))
    | v => .error ⟨v.typeName⟩

/-- The dialect that a normalized tag names; native when it names none. -/
def dialectOfNormalized : Data → Dialect
  | .text s => ((Dialect.aliases.find? (·.1 == s)).map (·.2)).getD .python
  | _ => .python

/-- The dialect that a tag names. -/
def resolveTag (tag : Data) : Except BadTag Dialect := (normalizeTag tag).map dialectOfNormalized

end SnippetRunner
