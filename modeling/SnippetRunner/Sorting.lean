/-!
# Sorting

A stable sort whose comparison may fail or ask. The row is cut into runs that are in order already,
short ones are made longer by inserting items, and neighbouring runs are merged. Where one of two
runs wins many times in a row, the merge leaps ahead instead of comparing item by item.
-/

namespace SnippetRunner.Sorting

variable {m : Type → Type} [Monad m] {α : Type}

/-! ## Runs -/

/-- How many items go on after one as they began: each less than the one before, or none. -/
@[specialize] def follow (less : α → α → m Bool) (falling : Bool) (last : α) : List α → m Nat
  | [] => return 0
  | x :: rest => do
    if (← less x last) == falling then return (← follow less falling x rest) + 1
    else return 0

/-- How many items at the start of a row are in order already, and whether they fall: none is
before a smaller one, or each is after a greater one. -/
@[specialize] def startingRun (less : α → α → m Bool) : List α → m (Nat × Bool)
  | first :: second :: rest => do
    let falling ← less second first
    return (2 + (← follow less falling second rest), falling)
  | xs => return (xs.length, false)

/-- The place of an item in a sorted row, after those that are equal to it, by halving the part
from `low` to `high`; `fuel` bounds how often. -/
@[specialize] def placeFor (less : α → α → m Bool) (x : α) (sorted : Array α) :
    Nat → Nat → Nat → m Nat
  | 0, low, _ => return low
  | fuel + 1, low, high => do
    if high ≤ low then return low
    else
      let middle := low + (high - low) / 2
      match sorted[middle]? with
      | none => return low
      | some y =>
        if ← less x y then placeFor less x sorted fuel low middle
        else placeFor less x sorted fuel (middle + 1) high

/-- A run from the start of a row, with at least `least` items if there are so many: what is not in
order already is inserted item by item. -/
@[specialize] def takeRun (less : α → α → m Bool) (least : Nat) (xs : Array α) :
    m (Array α) := do
  let (n, falling) ← startingRun less xs.toList
  let run := xs.extract 0 n
  (xs.extract n (min least xs.size)).foldlM
    (fun sorted x => do
      return sorted.insertIdxIfInBounds (← placeFor less x sorted 64 0 sorted.size) x)
    (if falling then run.reverse else run)

/-- The least length of a run in a row of so many items; `fuel` bounds how often it is halved. -/
def leastRun : Nat → Nat → Nat → Nat
  | 0, n, odd => n + odd
  | fuel + 1, n, odd => if n < 64 then n + odd else leastRun fuel (n / 2) (max odd (n % 2))

/-! ## Leaps -/

/-- The least distance at which leaps by a growing distance end, and the last one that was leapt
over. A leap goes on as long as `passes` holds and the distance is below `most`; `fuel` bounds
how often. -/
@[specialize] def leap (passes : Nat → m Bool) (most : Nat) : Nat → Nat → Nat → m (Nat × Nat)
  | 0, last, distance => return (last, min distance most)
  | fuel + 1, last, distance => do
    if distance < most then
      if ← passes distance then leap passes most fuel distance (2 * distance + 1)
      else return (last, distance)
    else return (last, most)

/-- The first place from `low` to `high` at which `before` does not hold, by halving; `fuel` bounds
how often. -/
@[specialize] def halve (before : Nat → m Bool) : Nat → Nat → Nat → m Nat
  | 0, low, _ => return low
  | fuel + 1, low, high => do
    if high ≤ low then return low
    else
      let middle := low + (high - low) / 2
      if ← before middle then halve before fuel (middle + 1) high else halve before fuel low middle

/-- The first of `n` places at which `before` does not hold, if it holds at places before one and
at none after it. The search begins at a place `hint` and leaps away from it. -/
@[specialize] def seek (before : Nat → m Bool) (n hint : Nat) : m Nat := do
  if ← before hint then
    let (last, distance) ← leap (fun d => before (hint + d)) (n - hint) 64 0 1
    halve before 64 (hint + last + 1) (hint + distance)
  else
    let (last, distance) ← leap (fun d => return ! (← before (hint - d))) (hint + 1) 64 0 1
    halve before 64 (hint + 1 - distance) (hint - last)

/-! ## Merging -/

/-- Whether one item of a row is less than another one; where there is none, it is not. -/
@[specialize] def lessAt (less : α → α → m Bool) (x y : Option α) : m Bool :=
  match x, y with
  | some x, some y => less x y
  | _, _ => return false

/-- How often one run has to win in a row before a merge begins to leap. -/
def patience : Nat := 7

/-- A merge of two runs from their starts. -/
structure Rising (α : Type) where
  left : Array α
  right : Array α
  /-- How many items of each run have been taken. -/
  i : Nat
  j : Nat
  out : Array α

namespace Rising

/-- Takes items of the left run. -/
def takeLeft (s : Rising α) (n : Nat) : Rising α :=
  { s with i := s.i + n, out := s.out ++ s.left.extract s.i (s.i + n) }

/-- Takes items of the right run. -/
def takeRight (s : Rising α) (n : Nat) : Rising α :=
  { s with j := s.j + n, out := s.out ++ s.right.extract s.j (s.j + n) }

/-- Whether a run is used up, where the last item of the left one is known to be the greatest. -/
def isEnded (s : Rising α) : Bool := s.left.size ≤ s.i + 1 || s.right.size ≤ s.j

/-- All items, when one run is used up: the left one ends what is left of the right one. -/
def close (s : Rising α) : Array α :=
  if s.right.size ≤ s.j then s.out ++ s.left.extract s.i s.left.size
  else s.out ++ s.right.extract s.j s.right.size ++ s.left.extract s.i s.left.size

/-- Merges item by item until a run is used up or wins `limit` times in a row; gives whether one
did. `fuel` is above the number of items. -/
@[specialize] def walk (less : α → α → m Bool) (limit : Nat) :
    Nat → Nat → Nat → Rising α → m (Bool × Rising α)
  | 0, _, _, s => return (false, s)
  | fuel + 1, wonLeft, wonRight, s => do
    if ← lessAt less s.right[s.j]? s.left[s.i]? then
      let s := s.takeRight 1
      if s.right.size ≤ s.j then return (false, s)
      else if limit ≤ wonRight + 1 then return (true, s)
      else walk less limit fuel 0 (wonRight + 1) s
    else
      let s := s.takeLeft 1
      if s.left.size ≤ s.i + 1 then return (false, s)
      else if limit ≤ wonLeft + 1 then return (true, s)
      else walk less limit fuel (wonLeft + 1) 0 s

/-- Merges by leaps as long as they are long; gives whether a run is used up, and the patience that
is left. `fuel` is above the number of items. -/
@[specialize] def run (less : α → α → m Bool) :
    Nat → Nat → Rising α → m (Bool × Nat × Rising α)
  | 0, limit, s => return (true, limit, s)
  | fuel + 1, limit, s => do
    let limit := if 1 < limit then limit - 1 else limit
    let won ← seek (fun k => return ! (← lessAt less s.right[s.j]? s.left[s.i + k]?))
      (s.left.size - s.i) 0
    let s := s.takeLeft won
    if 0 < won && s.left.size ≤ s.i + 1 then return (true, limit, s)
    else
      let s := s.takeRight 1
      if s.right.size ≤ s.j then return (true, limit, s)
      else
        let lost ← seek (fun k => lessAt less s.right[s.j + k]? s.left[s.i]?)
          (s.right.size - s.j) 0
        let s := s.takeRight lost
        if 0 < lost && s.right.size ≤ s.j then return (true, limit, s)
        else
          let s := s.takeLeft 1
          if s.left.size ≤ s.i + 1 then return (true, limit, s)
          else if patience ≤ won || patience ≤ lost then run less fuel limit s
          else return (false, limit, s)

/-- Merges to the end; `fuel` is above the number of items. -/
@[specialize] def finish (less : α → α → m Bool) :
    Nat → Nat → Rising α → m (Nat × Array α)
  | 0, limit, s => return (limit, s.close)
  | fuel + 1, limit, s => do
    let (wins, s) ← walk less limit (s.left.size + s.right.size) 0 0 s
    if ! wins then return (limit, s.close)
    else
      let (ended, limit, s) ← run less (s.left.size + s.right.size) (limit + 1) s
      if ended then return (limit, s.close) else finish less fuel (limit + 1) s

end Rising

/-- A merge of two runs from their ends. -/
structure Falling (α : Type) where
  left : Array α
  right : Array α
  /-- How many items of each run are left. -/
  i : Nat
  j : Nat
  /-- What has been taken, last item first. -/
  out : Array α

namespace Falling

/-- Takes items of the left run. -/
def takeLeft (s : Falling α) (n : Nat) : Falling α :=
  { s with i := s.i - n, out := s.out ++ (s.left.extract (s.i - n) s.i).reverse }

/-- Takes items of the right run. -/
def takeRight (s : Falling α) (n : Nat) : Falling α :=
  { s with j := s.j - n, out := s.out ++ (s.right.extract (s.j - n) s.j).reverse }

/-- All items, when one run is used up: the right one begins what is left of the left one. -/
def close (s : Falling α) : Array α :=
  if s.i = 0 then s.right.extract 0 s.j ++ s.out.reverse
  else s.right.extract 0 s.j ++ s.left.extract 0 s.i ++ s.out.reverse

/-- Merges item by item until a run is used up or wins `limit` times in a row; gives whether one
did. `fuel` is above the number of items. -/
@[specialize] def walk (less : α → α → m Bool) (limit : Nat) :
    Nat → Nat → Nat → Falling α → m (Bool × Falling α)
  | 0, _, _, s => return (false, s)
  | fuel + 1, wonLeft, wonRight, s => do
    if ← lessAt less s.right[s.j - 1]? s.left[s.i - 1]? then
      let s := s.takeLeft 1
      if s.i = 0 then return (false, s)
      else if limit ≤ wonLeft + 1 then return (true, s)
      else walk less limit fuel (wonLeft + 1) 0 s
    else
      let s := s.takeRight 1
      if s.j ≤ 1 then return (false, s)
      else if limit ≤ wonRight + 1 then return (true, s)
      else walk less limit fuel 0 (wonRight + 1) s

/-- Merges by leaps as long as they are long; gives whether a run is used up, and the patience that
is left. `fuel` is above the number of items. -/
@[specialize] def run (less : α → α → m Bool) :
    Nat → Nat → Falling α → m (Bool × Nat × Falling α)
  | 0, limit, s => return (true, limit, s)
  | fuel + 1, limit, s => do
    let limit := if 1 < limit then limit - 1 else limit
    let kept ← seek (fun k => return ! (← lessAt less s.right[s.j - 1]? s.left[k]?)) s.i (s.i - 1)
    let won := s.i - kept
    let s := s.takeLeft won
    if 0 < won && s.i = 0 then return (true, limit, s)
    else
      let s := s.takeRight 1
      if s.j ≤ 1 then return (true, limit, s)
      else
        let kept ← seek (fun k => lessAt less s.right[k]? s.left[s.i - 1]?) s.j (s.j - 1)
        let lost := s.j - kept
        let s := s.takeRight lost
        if 0 < lost && s.j ≤ 1 then return (true, limit, s)
        else
          let s := s.takeLeft 1
          if s.i = 0 then return (true, limit, s)
          else if patience ≤ won || patience ≤ lost then run less fuel limit s
          else return (false, limit, s)

/-- Merges to the end; `fuel` is above the number of items. -/
@[specialize] def finish (less : α → α → m Bool) :
    Nat → Nat → Falling α → m (Nat × Array α)
  | 0, limit, s => return (limit, s.close)
  | fuel + 1, limit, s => do
    let (wins, s) ← walk less limit (s.left.size + s.right.size) 0 0 s
    if ! wins then return (limit, s.close)
    else
      let (ended, limit, s) ← run less (s.left.size + s.right.size) (limit + 1) s
      if ended then return (limit, s.close) else finish less fuel (limit + 1) s

end Falling

/-- Two neighbouring runs as one, and the patience that is left. What stands in its place already,
at the start of the left one and at the end of the right one, is not merged. -/
@[specialize] def merge (less : α → α → m Bool) (limit : Nat) (left right : Array α) :
    m (Nat × Array α) := do
  let kept ← seek (fun k => return ! (← lessAt less right[0]? left[k]?)) left.size 0
  let before := left.extract 0 kept
  let left := left.extract kept left.size
  if left.isEmpty then return (limit, before ++ right)
  else
    let part ← seek (fun k => lessAt less right[k]? left.back?) right.size (right.size - 1)
    let after := right.extract part right.size
    let right := right.extract 0 part
    if right.isEmpty then return (limit, before ++ left ++ after)
    else
      let fuel := left.size + right.size
      let (limit, merged) ←
        if left.size ≤ right.size then
          let s := { left, right, i := 0, j := 1, out := right.extract 0 1 : Rising α }
          if s.isEnded then pure (limit, s.close) else s.finish less fuel limit
        else
          let s : Falling α :=
            { left, right, i := left.size - 1, j := right.size
              out := left.extract (left.size - 1) left.size }
          if s.i = 0 || s.j = 1 then pure (limit, s.close) else s.finish less fuel limit
      return (limit, before ++ merged ++ after)

/-! ## The order of merges -/

/-- A run that waits to be merged, with the depth at which it meets the one before it. -/
structure Waiting (α : Type) where
  run : Array α
  depth : Nat

/-- The depth at which two neighbouring runs meet in a tree that halves the whole row; `a` and `b`
are twice their middles. `fuel` bounds the depth. -/
def meetingDepth (n : Nat) : Nat → Nat → Nat → Nat
  | 0, _, _ => 1
  | fuel + 1, a, b =>
    if n ≤ a then meetingDepth n fuel (2 * (a - n)) (2 * (b - n)) + 1
    else if n ≤ b then 1
    else meetingDepth n fuel (2 * a) (2 * b) + 1

/-- Merges the last runs, last one first, as long as they meet deeper than the given depth. -/
@[specialize] def mergeDeeper (less : α → α → m Bool) (depth limit : Nat) :
    Waiting α → List (Waiting α) → m (Nat × Waiting α × List (Waiting α))
  | last, [] => return (limit, last, [])
  | last, before :: rest => do
    if depth < before.depth then
      let (limit, run) ← merge less limit before.run last.run
      mergeDeeper less depth limit { before with run } rest
    else return (limit, last, before :: rest)

/-- Merges all runs that are left, last one first. -/
@[specialize] def mergeAll (less : α → α → m Bool) :
    Nat → Nat → List (Waiting α) → m (Array α)
  | 0, _, runs => return (runs.head?.map Waiting.run).getD #[]
  | _ + 1, _, [] => return #[]
  | _ + 1, _, [last] => return last.run
  | fuel + 1, limit, last :: before :: third :: rest => do
    if third.run.size < last.run.size then
      let (limit, run) ← merge less limit third.run before.run
      mergeAll less fuel limit (last :: { third with run } :: rest)
    else
      let (limit, run) ← merge less limit before.run last.run
      mergeAll less fuel limit ({ before with run } :: third :: rest)
  | fuel + 1, limit, [last, before] => do
    let (limit, run) ← merge less limit before.run last.run
    mergeAll less fuel limit [{ before with run }]

/-- Cuts a row into runs and merges those that meet deeply. `start` is where the row begins in the
whole one of `n` items; `fuel` is above the number of items. -/
@[specialize] def sortFrom (less : α → α → m Bool) (n least : Nat) :
    Nat → Nat → Nat → List (Waiting α) → Array α → m (Array α)
  | 0, _, limit, runs, _ => mergeAll less (runs.length + 1) limit runs
  | fuel + 1, start, limit, runs, xs => do
    if xs.isEmpty then mergeAll less (runs.length + 1) limit runs
    else
      let run ← takeRun less least xs
      let next := xs.extract run.size xs.size
      let (limit, runs) ← match runs with
        | [] => pure (limit, [])
        | last :: rest =>
          let a := 2 * (start - last.run.size) + last.run.size
          let depth := meetingDepth n 64 a (a + last.run.size + run.size)
          let (limit, last, rest) ← mergeDeeper less depth limit last rest
          pure (limit, { last with depth } :: rest)
      sortFrom less n least fuel (start + run.size) limit (⟨run, 0⟩ :: runs) next

/-- A row sorted. -/
@[specialize] def sort (less : α → α → m Bool) (xs : List α) : m (List α) := do
  let row := xs.toArray
  if row.size < 2 then return xs
  else
    let least := leastRun 64 row.size 0
    return (← sortFrom less row.size least (row.size + 1) 0 patience [] row).toList

end SnippetRunner.Sorting
