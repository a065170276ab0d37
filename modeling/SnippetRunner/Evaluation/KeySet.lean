import SnippetRunner.Evaluation.Value

/-!
# Sets of keys

Keys are kept in a table of slots. A key stands in a slot near the one that its hash names, so the
hashes decide on the order in which the keys are met. The table grows before it is full.
-/

namespace SnippetRunner.Evaluation

/-- The first of so many places from one on that has a property. -/
def firstFrom (holds : Nat → Bool) : Nat → Nat → Option Nat
  | 0, _ => none
  | count + 1, i => if holds i then some i else firstFrom holds count (i + 1)

/-- What stands in a slot. -/
inductive Slot where
  | free
  /-- A key stood here. -/
  | left
  | key (hash : Int) (v : Value)
  deriving Inhabited

namespace Slot

/-- The key in a slot and its hash. -/
def key? : Slot → Option (Int × Value)
  | .key hash v => some (hash, v)
  | _ => none

end Slot

/-- A set of keys. -/
structure KeySet where
  /-- The number of slots is a power of two. -/
  slots : Array Slot := Array.replicate 8 .free
  /-- How many slots are not free. -/
  fill : Nat := 0
  size : Nat := 0
  /-- Where the search for a key to be taken out begins. -/
  finger : Nat := 0
  deriving Inhabited

/-- Where a search for a key ends. -/
inductive Probe where
  /-- At the key. -/
  | hit (slot : Nat)
  /-- At the slot where the key would be put. -/
  | miss (slot : Nat)

namespace KeySet

variable {m : Type → Type} [Monad m]

/-- How many slots after the first one are looked at in a row. -/
def neighbours : Nat := 9

/-- Looks at so many slots in a row. -/
@[specialize] def scan (same : Value → m Bool) (hash : Int) (slots : Array Slot) :
    Nat → Nat → m (Option Probe)
  | 0, _ => return none
  | count + 1, i => do
    match slots[i]? with
    | some (.key h v) =>
      if h == hash then
        if ← same v then return some (.hit i)
      scan same hash slots count (i + 1)
    | some .left => scan same hash slots count (i + 1)
    | _ => return some (.miss i)

/-- Looks for a key from one place of the table to the next; `fuel` bounds how many there are. -/
@[specialize] def probe (same : Value → m Bool) (hash : Int) (slots : Array Slot) :
    Nat → UInt64 → Nat → m Probe
  | 0, _, i => return .miss i
  | fuel + 1, rest, i => do
    let mask := slots.size - 1
    let count := if i + neighbours ≤ mask then neighbours + 1 else 1
    match ← scan same hash slots count i with
    | some found => return found
    | none =>
      let rest := rest >>> 5
      probe same hash slots fuel rest ((i * 5 + 1 + rest.toNat) % slots.size)

/-- A hash as a word. -/
def word (hash : Int) : UInt64 := UInt64.ofInt hash

/-- Looks for a key with a hash; `same` tells whether it is a given one. -/
@[specialize] def find (s : KeySet) (same : Value → m Bool) (hash : Int) : m Probe :=
  let start := word hash
  probe same hash s.slots (s.slots.size + 20) start (start.toNat % s.slots.size)

/-- Puts a key that is not there yet into a table. -/
def place (slots : Array Slot) (hash : Int) (v : Value) : Array Slot :=
  let s : KeySet := { slots }
  match (s.find (fun _ => return false) hash : Id Probe) with
  | .hit i | .miss i => slots.setIfInBounds i (.key hash v)

/-- The keys with their hashes, in the order of their slots. -/
def keys (s : KeySet) : List (Int × Value) := s.slots.toList.filterMap Slot.key?

/-- The items of a set. -/
def toList (s : KeySet) : List Value := s.keys.map (·.2)

/-- The least size of a table with more than so many slots; `fuel` bounds how often it doubles. -/
def tableSize (least : Nat) : Nat → Nat → Nat
  | 0, n => n
  | fuel + 1, n => if n ≤ least then tableSize least fuel (2 * n) else n

/-- The same keys in a table with more than so many slots. -/
def resize (s : KeySet) (least : Nat) : KeySet :=
  let empty := Array.replicate (tableSize least 64 8) Slot.free
  { s with
    slots := s.keys.foldl (fun slots (hash, v) => place slots hash v) empty
    fill := s.size }

/-- Puts a key that is not there yet into the free slot that was found for it. -/
def insertAt (s : KeySet) (slot : Nat) (hash : Int) (v : Value) : KeySet :=
  let s := { s with
    slots := s.slots.setIfInBounds slot (.key hash v), fill := s.fill + 1, size := s.size + 1 }
  if s.fill * 5 < (s.slots.size - 1) * 3 then s
  else s.resize (if 50000 < s.size then s.size * 2 else s.size * 4)

/-- Removes the key in a slot. -/
def removeAt (s : KeySet) (slot : Nat) : KeySet :=
  { s with slots := s.slots.setIfInBounds slot .left, size := s.size - 1 }

/-- Puts a key into a set unless it is there. -/
@[specialize] def insert (s : KeySet) (same : Value → m Bool) (hash : Int) (v : Value) :
    m KeySet := do
  match ← s.find same hash with
  | .hit _ => return s
  | .miss slot => return s.insertAt slot hash v

/-- Removes a key if it is there, and tells whether it was. -/
@[specialize] def erase (s : KeySet) (same : Value → m Bool) (hash : Int) : m (Bool × KeySet) := do
  match ← s.find same hash with
  | .hit slot => return (true, s.removeAt slot)
  | .miss _ => return (false, s)

/-- Whether a key is there. -/
@[specialize] def has (s : KeySet) (same : Value → m Bool) (hash : Int) : m Bool := do
  match ← s.find same hash with
  | .hit _ => return true
  | .miss _ => return false

/-- Makes room for so many more keys. -/
def reserve (s : KeySet) (more : Nat) : KeySet :=
  if (s.slots.size - 1) * 3 ≤ (s.fill + more) * 5 then s.resize ((s.size + more) * 2) else s

/-- A set with the keys of another one; `same` compares a key that is there with a new one. -/
@[specialize] def union (s t : KeySet) (same : Value → Value → m Bool) : m KeySet := do
  if t.size = 0 then return s
  else
    let s := s.reserve t.size
    if s.fill = 0 then
      if s.slots.size = t.slots.size && t.fill = t.size then
        return { s with slots := t.slots, fill := t.fill, size := t.size }
      else return {
        s with
        slots := t.keys.foldl (fun slots (hash, v) => place slots hash v) s.slots
        fill := t.size, size := t.size }
    else t.keys.foldlM (fun s (hash, v) => s.insert (same · v) hash v) s

/-- The keys of one of two sets that are in the other one as well: those of the smaller one, of two
equal ones those of the second one. -/
@[specialize] def intersection (s t : KeySet) (same : Value → Value → m Bool) : m KeySet := do
  let (s, t) := if s.size < t.size then (t, s) else (s, t)
  t.keys.foldlM (fun (r : KeySet) (hash, v) => do
    if ← s.has (same · v) hash then r.insert (same · v) hash v else return r) {}

/-- A set without some keys. -/
@[specialize] def without (s : KeySet) (keys : List (Int × Value))
    (same : Value → Value → m Bool) : m KeySet :=
  keys.foldlM (fun s (hash, v) => return (← s.erase (same · v) hash).2) s

/-- The keys of a set that are not in another one. -/
@[specialize] def difference (s t : KeySet) (same : Value → Value → m Bool) : m KeySet := do
  if t.size < s.size / 4 then without (← union {} s same) t.keys same
  else
    s.keys.foldlM (fun (r : KeySet) (hash, v) => do
      if ← t.has (same · v) hash then return r else r.insert (same · v) hash v) {}

/-- The keys of one set put into another one, or taken out of it where they are there. -/
@[specialize] def toggle (s t : KeySet) (same : Value → Value → m Bool) : m KeySet :=
  t.keys.foldlM (fun (s : KeySet) (hash, v) => do
    let (was, s) ← s.erase (same · v) hash
    if was then return s else s.insert (same · v) hash v) s

/-- Whether all keys of a set are in another one. -/
@[specialize] def within (s t : KeySet) (same : Value → Value → m Bool) : m Bool :=
  s.keys.allM fun (hash, v) => t.has (same · v) hash

/-- Whether a key stands in a slot. -/
def holds (s : KeySet) (slot : Nat) : Bool := ((s.slots[slot]?).bind Slot.key?).isSome

/-- Takes a key out of a set: the first one after the place where the last one was taken out, and
after the last slot comes the first one. -/
def pop? (s : KeySet) : Option (Value × KeySet) := do
  let n := s.slots.size
  let slot ← (firstFrom (fun i => s.holds (i % n)) n (s.finger % n)).map (· % n)
  let (_, v) ← (s.slots[slot]?).bind Slot.key?
  return (v, { s.removeAt slot with finger := slot + 1 })

/-- The next key at a slot or after it, and the slot behind it. -/
def next? (s : KeySet) (slot : Nat) : Option (Value × Nat) := do
  let i ← firstFrom s.holds (s.slots.size - slot) slot
  let (_, v) ← (s.slots[i]?).bind Slot.key?
  return (v, i + 1)

end KeySet

end SnippetRunner.Evaluation
