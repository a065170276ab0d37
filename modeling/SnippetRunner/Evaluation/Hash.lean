import SnippetRunner.Evaluation.Kind

/-!
# Hashes

A hash is an integer that equal keys share. Numbers are taken modulo a prime, so that an integer
and a float of the same value have the same hash; tuples and sets mix the hashes of their items.
Lists, mappings and sets have none, and neither have values of a class that says what is equal to
them but not what their hash is.
-/

namespace SnippetRunner.Evaluation

/-- The prime that numbers are taken modulo. -/
def hashPrime : Nat := 2305843009213693951

/-- A word as a signed integer. -/
def signedWord (w : UInt64) : Int := w.toInt64.toInt

/-- A hash that may be used: minus one is not. -/
def allowedHash (n : Int) : Int := if n = -1 then -2 else n

/-- The hash of an integer: its size modulo the prime, with its sign. -/
def intHash (n : Int) : Int := allowedHash (n.tmod hashPrime)

/-- The hash of a float: that of the fraction it is, where dividing by two is multiplying by its
inverse. -/
def floatHash (x : Float) : Int :=
  match Number.Dyadic.ofFloat x with
  | .nan => 0
  | .infinite negative => if negative then -314159 else 314159
  | .finite negative m q =>
    let shift := (q.emod 61).toNat
    let n := m * Number.twoTo shift % hashPrime
    allowedHash (Number.signed negative n)

/-- The hash of a complex number. -/
def complexHash (re im : Float) : Int :=
  allowedHash (signedWord (UInt64.ofInt (floatHash re) + 1000003 * UInt64.ofInt (floatHash im)))

/-- A word with its bits turned to the left. -/
def turned (w : UInt64) (by_ : UInt64) : UInt64 := (w <<< by_) ||| (w >>> (64 - by_))

/-- The hash of a row from those of its items. -/
def rowHash (hashes : List Int) : Int :=
  let start : UInt64 := 2870177450012600261
  let mixed := hashes.foldl (fun acc n =>
    turned (acc + UInt64.ofInt n * 14029467366897019727) 31 * 11400714785074694791) start
  let length : UInt64 := UInt64.ofNat hashes.length
  let ending : UInt64 := start ^^^ 3527539
  let mixed := mixed + (length ^^^ ending)
  if signedWord mixed = -1 then 1546275796 else signedWord mixed

/-- The hash of a set from those of its keys, whatever their order is. -/
def setHash (hashes : List Int) : Int :=
  let salt : UInt64 := 89869747
  let mixed := hashes.foldl (fun acc n =>
    let w := UInt64.ofInt n
    acc ^^^ (((w ^^^ salt) ^^^ (w <<< 16)) * 3644798167)) (0 : UInt64)
  let mixed := mixed ^^^ (UInt64.ofNat (hashes.length + 1) * 1927868237)
  let mixed := mixed ^^^ ((mixed >>> 11) ^^^ (mixed >>> 25))
  let mixed := mixed * 69069 + 907133923
  if signedWord mixed = -1 then 590923713 else signedWord mixed

/-- The hash of a name that stands for something known. -/
def nameHash (id : String) : Int := Mapping.textHash ("known " ++ id)

/-- The complaint about a value that has no hash. -/
def noHash {α : Type} (v : Value) : Native α := do
  Native.typeError s!"unhashable type: '{(← Native.heap).typeName v}'"

/-- The type of the first part of a value that has no hash, if there is one; `fuel` bounds the
depth. -/
def Heap.unhashable? (h : Heap) : Nat → Value → Option String
  | 0, _ => none
  | fuel + 1, v =>
    match v with
    | .tuple items => items.findSome? (h.unhashable? fuel)
    | .slice _ _ _ => some (h.typeName v)
    | .ref address =>
      match h.get? address with
      | some (.list _) | some (.buffer _) | some (.mapping _) | some (.names _)
      | some (.members _ _) | some (.set false _) | some (.view .keys _) | some (.view .items _) => some (h.typeName v)
      | some (.instance_ _ _ content) =>
        match h.special? v "__hash__" with
        | some .none => some (h.typeName v)
        | some _ => none
        | none => (h.unhashable? fuel content).map fun _ => h.typeName v
      | _ => none
    | _ => none

/-- The number of items of a range. -/
def rangeSize (start stop step : Int) : Nat :=
  if 0 < step then ((stop - start + step - 1).fdiv step).toNat
  else if step < 0 then ((start - stop - step - 1).fdiv (-step)).toNat
  else 0

/-- The hash of a value; `fuel` bounds the depth. -/
def hashIn : Nat → Value → Native Int
  | 0, v => noHash v
  | fuel + 1, v => do
    match v with
    | .bool b => return if b then 1 else 0
    | .int n => return intHash n
    | .float x => return floatHash x
    | .nan mark => return intHash (mark * 16)
    | .complex re im => return complexHash re im
    | .text s => return Mapping.textHash s
    | .bytes bs => return Mapping.textHash (String.ofList (bs.map fun b => Char.ofNat b.toNat))
    | .tuple items => return rowHash (← items.mapM (hashIn fuel))
    | .range start stop step =>
      let size := rangeSize start stop step
      let parts : List Value := if size = 0 then [.int 0, .none, .none]
        else if size = 1 then [.int 1, .int start, .none]
        else [.int size, .int start, .int step]
      return rowHash (← parts.mapM (hashIn fuel))
    | .slice _ _ _ => noHash v
    | .none => return nameHash "none"
    | .notImplemented => return nameHash "not implemented"
    | .ellipsis => return nameHash "ellipsis"
    | .type name => return nameHash ("type " ++ name)
    | .builtin name => return nameHash name
    | .own binding => return nameHash (toString (repr binding))
    | .method self name =>
      match self with
      | .ref address => return intHash (address * 16 + nameHash name)
      | _ => return rowHash [← hashIn fuel self, nameHash name]
    | .bound self function => return rowHash [← hashIn fuel self, ← hashIn fuel function]
    | .ref address =>
      let h ← Native.heap
      match h.get? address with
      | some (.list _) | some (.buffer _) | some (.mapping _) | some (.names _)
      | some (.members _ _) | some (.set false _) => noHash v
      | some (.view .keys _) | some (.view .items _) => noHash v
      | some (.set true keys) => return setHash (keys.keys.map (·.1))
      | some (.code function) => return intHash (function * 4 + 1)
      | some (.generic origin args) => return rowHash (← (origin :: args).mapM (hashIn fuel))
      | some (.union kinds) => return setHash (← kinds.mapM (hashIn fuel))
      | some (.instance_ _ _ _) | some (.error _) =>
        match h.special? v "__hash__" with
        | some .none => noHash v
        | some method =>
          let answer ← askMethod v method []
          match ((← Native.heap).core answer).int? with
          | some n => return if isSize n then allowedHash n else intHash n
          | none => Native.typeError "__hash__ method should return an integer"
        | none =>
          match h.buffer? v, h.content? v with
          | some _, _ => noHash v
          | none, some content => hashIn fuel content
          | none, none => return intHash (address * 4)
      | _ => return intHash (address * 4)

/-- The hash of a value. -/
def hashOf (v : Value) : Native Int := do hashIn ((← Native.room) + 50) v

end SnippetRunner.Evaluation
