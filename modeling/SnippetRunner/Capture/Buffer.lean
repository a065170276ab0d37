import SnippetRunner.Data

/-!
# The capture buffer

Everything a run prints, in order, up to a cap. The fragment that would pass the cap is cut, a
marker follows it, and nothing is taken after that. The cap may be any number a configuration
gives, so it may also be fractional, negative, infinite or not a number at all; and a fragment
may be bytes, which are kept but have no text.
-/

namespace SnippetRunner.Capture

/-- One piece of output. -/
inductive Fragment where
  | text (s : String)
  | bytes (bs : List UInt8)
  deriving Repr, DecidableEq

/-- The number of characters or bytes of a fragment. -/
def Fragment.length : Fragment → Nat
  | .text s => s.length
  | .bytes bs => bs.length

/-- The most that a buffer takes. -/
inductive Cap where
  | whole (n : Int)
  | real (x : Float)
  deriving DecidableEq

/-- What follows the fragment that was cut. -/
def truncationMarker : String := "... [truncated]"

/-- The buffer of one run. -/
structure Buffer where
  cap : Cap
  fragments : Array Fragment := #[]
  size : Nat := 0
  truncated : Bool := false
  deriving DecidableEq

/-- A fragment that cannot be cut because the room is no whole number. -/
structure FractionalRoom where
  deriving Repr, DecidableEq

/-- A fragment of the value is not text; its place among the fragments is `index`. -/
structure NotText where
  index : Nat
  deriving Repr, DecidableEq

/-- The first `n` elements; for a negative `n`, all but the last `-n`. -/
def takeRoom {α : Type} (n : Int) (xs : List α) : List α :=
  if 0 ≤ n then xs.take n.toNat else xs.take (xs.length - (-n).toNat)

/-- A fragment cut to the given room. -/
def Fragment.cut (n : Int) : Fragment → Fragment
  | .text s => .text (String.ofList (takeRoom n s.toList))
  | .bytes bs => .bytes (takeRoom n bs)

namespace Buffer

/-- Whether a fragment of a length passes the cap. -/
def overflows (b : Buffer) (length : Nat) : Bool :=
  match b.cap with
  | .whole n => decide (n - b.size < length)
  | .real x => Number.compareInt length (x - Float.ofNat b.size) == some .gt

/-- Takes one more fragment. -/
def append (b : Buffer) (fragment : Fragment) : Except FractionalRoom Buffer :=
  if b.truncated then .ok b
  else if b.overflows fragment.length then
    match b.cap with
    | .real _ => .error ⟨⟩
    | .whole n => .ok { b with
        fragments := (b.fragments.push (fragment.cut (n - b.size))).push (.text truncationMarker)
        truncated := true }
  else .ok { b with
    fragments := b.fragments.push fragment
    size := b.size + fragment.length }

/-- The texts of fragments, if all are text; `index` counts those before. -/
def textsFrom (index : Nat) : List Fragment → Except NotText (List String)
  | [] => .ok []
  | .text s :: rest => (textsFrom (index + 1) rest).map (s :: ·)
  | .bytes _ :: _ => .error ⟨index⟩

/-- Everything that was captured, as one text. -/
def value (b : Buffer) : Except NotText String := (textsFrom 0 b.fragments.toList).map String.join

end Buffer

/-- What a caller is told when there is fractional room. -/
def FractionalRoom.problem : FractionalRoom → Problem
  | _ => ⟨"TypeError", "slice indices must be integers or None or have an __index__ method"⟩

/-- What a caller is told when a fragment is not text. -/
def NotText.problem (fault : NotText) : Problem :=
  ⟨"TypeError", s!"sequence item {fault.index}: expected str instance, bytes found"⟩

end SnippetRunner.Capture
