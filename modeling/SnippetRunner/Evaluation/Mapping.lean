import SnippetRunner.Evaluation.KeySet
import Std.Data.HashMap

/-!
# Mappings

A mapping keeps its entries in rows, in the order in which their keys were added, and finds them by
the hashes of the keys. An entry that is removed leaves a gap; the rows are written anew when there
is no room for more.
-/

namespace SnippetRunner.Evaluation

/-- A key of a mapping with its hash and its value. -/
structure Entry where
  hash : Int
  key : Value
  value : Value
  deriving Inhabited

/-- A mapping. -/
structure Mapping where
  rows : Array (Option Entry) := #[]
  size : Nat := 0
  /-- How many rows there is room for. -/
  room : Nat := 5
  /-- The rows of the keys with a hash. -/
  places : Std.HashMap Int (List Nat) := {}
  deriving Inhabited

namespace Mapping

variable {m : Type → Type} [Monad m]

/-- The entries in their order. -/
def entries (t : Mapping) : List Entry := t.rows.toList.filterMap id

/-- The keys in their order. -/
def keys (t : Mapping) : List Value := t.entries.map Entry.key

/-- The values in the order of their keys. -/
def values (t : Mapping) : List Value := t.entries.map Entry.value

/-- The keys with their values. -/
def toList (t : Mapping) : List (Value × Value) := t.entries.map fun e => (e.key, e.value)

/-- The entry in a row. -/
def entry? (t : Mapping) (row : Nat) : Option Entry := (t.rows[row]?).bind id

/-- Looks for a key among some rows. -/
@[specialize] def findAmong (t : Mapping) (same : Value → m Bool) : List Nat → m (Option Nat)
  | [] => return none
  | row :: rest => do
    match t.entry? row with
    | some e => if ← same e.key then return some row else t.findAmong same rest
    | none => t.findAmong same rest

/-- The row of a key with a hash; `same` tells whether it is a given one. -/
@[specialize] def find (t : Mapping) (same : Value → m Bool) (hash : Int) : m (Option Nat) :=
  t.findAmong same (t.places.getD hash [])

/-- How many rows there is room for in a table of at least so many places; `fuel` bounds how often
it doubles. -/
def roomFor (least : Nat) : Nat → Nat → Nat
  | 0, n => n * 2 / 3
  | fuel + 1, n => if n < least then roomFor least fuel (2 * n) else n * 2 / 3

/-- The same entries without gaps, and with room for more. -/
def rewritten (t : Mapping) : Mapping :=
  let rows := t.rows.filter Option.isSome
  let places := rows.toList.zipIdx.foldl (fun places (row, i) =>
    match row with
    | some e => places.insert e.hash ((places.getD e.hash []) ++ [i])
    | none => places) ({} : Std.HashMap Int (List Nat))
  { rows, size := t.size, room := roomFor (t.size * 3) 64 8, places }

/-- Adds a key that is not there yet. -/
def add (t : Mapping) (hash : Int) (key value : Value) : Mapping :=
  let t := if t.rows.size < t.room then t else t.rewritten
  let row := t.rows.size
  { rows := t.rows.push (some ⟨hash, key, value⟩), size := t.size + 1, room := t.room
    places := t.places.insert hash ((t.places.getD hash []) ++ [row]) }

/-- Replaces the value in a row. -/
def replaceAt (t : Mapping) (row : Nat) (value : Value) : Mapping :=
  { t with rows := t.rows.modify row (·.map fun e => { e with value }) }

/-- Removes the entry in a row. -/
def removeAt (t : Mapping) (row : Nat) : Mapping :=
  match t.entry? row with
  | none => t
  | some e =>
    { t with
      rows := t.rows.setIfInBounds row none
      size := t.size - 1
      places := t.places.insert e.hash ((t.places.getD e.hash []).filter (· != row)) }

/-- Sets the value of a key: in its place if it is there, else at the end. -/
@[specialize] def insert (t : Mapping) (same : Value → m Bool) (hash : Int) (key value : Value) :
    m Mapping := do
  match ← t.find same hash with
  | some row => return t.replaceAt row value
  | none => return t.add hash key value

/-- Whether there is an entry in a row. -/
def holds (t : Mapping) (row : Nat) : Bool := (t.entry? row).isSome

/-- The row of the last entry. -/
def lastRow? (t : Mapping) : Option Nat :=
  (firstFrom (fun i => t.holds (t.rows.size - 1 - i)) t.rows.size 0).map (t.rows.size - 1 - ·)

/-- The next entry in a row or after it, and the row behind it. -/
def next? (t : Mapping) (row : Nat) : Option (Entry × Nat) := do
  let i ← firstFrom t.holds (t.rows.size - row) row
  return (← t.entry? i, i + 1)

/-- The last entry before a row, and its row. -/
def previous? (t : Mapping) (row : Nat) : Option (Entry × Nat) := do
  let i ← (firstFrom (fun i => t.holds (row - 1 - i)) row 0).map (row - 1 - ·)
  return (← t.entry? i, i)

/-- The hash of a text. -/
def textHash (s : String) : Int := s.hash.toNat % 2305843009213693951

/-- Names with values as a mapping. -/
def ofTable (names : Table) : Mapping :=
  names.foldl (fun t (id, v) => t.add (textHash id) (.text id) v) {}

/-- The value of a name. -/
def text? (t : Mapping) (id : String) : Option Value :=
  (t.places.getD (textHash id) []).findSome? fun row => do
    match ← t.entry? row with
    | ⟨_, .text s, v⟩ => if s == id then some v else none
    | _ => none

/-- Sets the value of a name. -/
def putText (t : Mapping) (id : String) (v : Value) : Mapping :=
  let same (key : Value) : Bool := match key with
    | .text s => s == id
    | _ => false
  (t.insert (m := Id) (fun key => pure (same key)) (textHash id) (.text id) v)

end Mapping

end SnippetRunner.Evaluation
