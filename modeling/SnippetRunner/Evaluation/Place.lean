import SnippetRunner.Evaluation.Operator

/-!
# Places in rows

Which places of a row an index or a slice picks, and what is said when there are none.

A byte string is a row too. It is taken for a text in which only the letters, digits and blanks of
ASCII are such; all other bytes are characters without a meaning. One that can be changed is an
object with bytes. Its items are integers that fit into a byte; all else is refused.
-/

namespace SnippetRunner.Evaluation

/-- A bound of a slice; none if it is left out. -/
def sliceBound? (v : Value) : Native (Option Int) := do
  match v with
  | .none => return none
  | _ =>
    match ← indexOf? v with
    | some n => return some n
    | none =>
      Native.typeError "slice indices must be integers or None or have an __index__ method"

/-- The places that a slice picks from a row of the given length: the first, the end and the
step. -/
def sliceRange (lower upper step : Value) (length : Nat) : Native (Int × Int × Int) := do
  let step := (← sliceBound? step).getD 1
  if step = 0 then Native.valueError "slice step cannot be zero"
  let n : Int := length
  let clamp (i low high : Int) : Int :=
    let i := if i < 0 then i + n else i
    max low (min high i)
  let lower ← sliceBound? lower
  let upper ← sliceBound? upper
  if 0 < step then
    return ((lower.map (clamp · 0 n)).getD 0, (upper.map (clamp · 0 n)).getD n, step)
  else
    return ((lower.map (clamp · (-1) (n - 1))).getD (n - 1),
      (upper.map (clamp · (-1) (n - 1))).getD (-1), step)

/-- The places that a slice picks, in order. -/
def slicePlaces (lower upper step : Value) (length : Nat) : Native (List Nat) := do
  let (first, stop, step) ← sliceRange lower upper step length
  return (List.range (rangeSize first stop step)).map fun (i : Nat) => (first + step * i).toNat

/-- The part of a row between two places that are given like those of a slice, and its start. -/
def window {α : Type} (items : List α) (bounds : List Value) : Native (Nat × List α) := do
  let size := items.length
  let bound (v : Value) (standard : Nat) : Native Nat := do
    let n := (← sliceBound? v).getD standard
    return (if n < 0 then max 0 (n + size) else n).toNat
  let start ← bound (bounds.headD .none) 0
  let stop ← bound ((bounds.drop 1).headD .none) size
  return (start, (items.take stop).drop start)

/-- The items of a row at some places. -/
def pick {α : Type} (items : Array α) (places : List Nat) : List α :=
  places.filterMap fun i => items[i]?

/-- The place of an index in a row: negative ones count from the end. -/
def placeOf? (n : Int) (length : Nat) : Option Nat :=
  let i := if n < 0 then n + length else n
  if 0 ≤ i ∧ i < length then some i.toNat else none

/-- The place of an index in a row, where `range` is what is said when there is none. -/
def placeIn (n : Int) (length : Nat) (range : String) : Native Nat := do
  if ! isSize n then
    Native.fail "IndexError" "cannot fit 'int' into an index-sized integer"
  match placeOf? n length with
  | some i => return i
  | none => Native.fail "IndexError" range

/-- An item of a row, or a slice of it. -/
def rowItem {α : Type} (items : Array α) (index : Value) (owner : String) (range : String)
    (one : α → Value) (many : List α → Native Value) : Native Value := do
  match index with
  | .slice lower upper step => many (pick items (← slicePlaces lower upper step items.size))
  | _ =>
    match ← indexOf? index with
    | some n =>
      match items[← placeIn n items.size range]? with
      | some item => return one item
      | none => Native.fail "IndexError" range
    | none =>
      let typeName := (← Native.heap).typeName index
      if owner == "string" then
        Native.typeError s!"string indices must be integers, not '{typeName}'"
      else Native.typeError s!"{owner} indices must be integers or slices, not {typeName}"

/-- A row with the items at some places replaced by others, one each. -/
def replaceAt (items : Array Value) : List Nat → List Value → Array Value
  | i :: places, v :: rest => replaceAt (items.setIfInBounds i v) places rest
  | _, _ => items

/-! ## Byte strings as texts -/

/-- Where the characters for bytes without a meaning begin. -/
def byteBase : Nat := 0xe000

/-- A byte as a character. Bytes outside of ASCII, and separator controls, have no meaning. -/
def byteChar (b : UInt8) : Char :=
  let n := b.toNat
  if 128 ≤ n || (0x1c ≤ n && n ≤ 0x1f) then Char.ofNat (byteBase + n) else Char.ofNat n

/-- The byte that a character stands for. -/
def charByte (c : Char) : UInt8 :=
  (if byteBase ≤ c.toNat then c.toNat - byteBase else c.toNat).toUInt8

/-- A byte string as a text. -/
def byteText (bs : List UInt8) : String := String.ofList (bs.map byteChar)

/-- A text as the byte string it stands for. -/
def textBytes (s : String) : List UInt8 := s.toList.map charByte

/-- The bytes that a value is. -/
def bytes? (v : Value) : Native (Option (List UInt8)) := do
  match (← Native.heap).core v with
  | .bytes bs => return some bs
  | _ => return none

/-! ## Byte strings that can be changed -/

/-- Replaces the bytes at an address. -/
def setBuffer (address : Nat) (bs : List UInt8) : Native Unit :=
  Native.modifyHeap fun h => h.set address (.buffer bs)

/-- The byte that a value is. -/
def byteOf (v : Value) : Native UInt8 := do
  match ← indexOf? v with
  | some n =>
    if 0 ≤ n ∧ n < 256 then return n.toNat.toUInt8
    else Native.valueError "byte must be in range(0, 256)"
  | none =>
    Native.typeError
      s!"'{(← Native.heap).typeName v}' object cannot be interpreted as an integer"

/-- The bytes that a value gives: its own, or its items. -/
def bytesIn (v : Value) : Native (List UInt8) := do
  match (← Native.heap).core v with
  | .bytes bs => return bs
  | _ => (← itemsOf v).mapM byteOf

/-- The place of an index in a byte string that can be changed. -/
def bufferPlace (index : Value) (length : Nat) : Native Nat := do
  match ← indexOf? index with
  | some n => placeIn n length "bytearray index out of range"
  | none =>
    Native.typeError ("bytearray indices must be integers or slices, not "
      ++ (← Native.heap).typeName index)

/-- The bytes that a slice is set to. -/
def sliceBytes (item : Value) : Native (List UInt8) := do
  let h ← Native.heap
  let core := h.core item
  if core.numeric?.isSome || (h.text? item).isSome then
    Native.typeError "can assign only bytes, buffers, or iterables of ints in range(0, 256)"
  else if ! h.isIterable item then
    Native.typeError s!"cannot convert '{h.typeName item}' object to bytearray"
  else bytesIn item

/-- Sets what stands under an index or a slice. -/
def setBufferItem (address : Nat) (bs : List UInt8) (index item : Value) : Native Unit := do
  match index with
  | .slice lower upper step =>
    let more ← sliceBytes item
    let (first, stop, pace) ← sliceRange lower upper step bs.length
    if pace = 1 then
      setBuffer address (bs.take first.toNat ++ more ++ bs.drop (max first stop).toNat)
    else
      let places ← slicePlaces lower upper step bs.length
      if places.length != more.length then
        Native.valueError (s!"attempt to assign bytes of size {more.length} "
          ++ s!"to extended slice of size {places.length}")
      else
        setBuffer address ((places.zip more).foldl (fun bs (i, b) => bs.set i b) bs)
  | _ =>
    let i ← bufferPlace index bs.length
    setBuffer address (bs.set i (← byteOf item))

/-- Deletes what stands under an index or a slice. -/
def deleteBufferItem (address : Nat) (bs : List UInt8) (index : Value) : Native Unit := do
  let places ← match index with
    | .slice lower upper step => slicePlaces lower upper step bs.length
    | _ => pure [← bufferPlace index bs.length]
  setBuffer address (bs.zipIdx.filterMap fun (b, i) => if places.contains i then none else some b)

end SnippetRunner.Evaluation
