import SnippetRunner.Evaluation.Equality

/-!
# Iteration

Where the items of a value come from, and how one item after the other is taken.
-/

namespace SnippetRunner.Evaluation

open SnippetRunner.Snippet

/-- A new list. -/
def newList (items : List Value) : Native Value := Native.allocate (.list items.toArray)

/-- The most items that are made at once. -/
def itemLimit : Nat := 10000000

/-- The items of a range. -/
def rangeItems (start stop step : Int) : Native (List Value) := do
  let size := rangeSize start stop step
  if itemLimit < size then Native.endless
  return (List.range size).map fun (i : Nat) => .int (start + step * i)

/-- What a view shows of an entry. -/
def Aspect.of (aspect : Aspect) (e : Entry) : Value :=
  match aspect with
  | .keys => e.key
  | .values => e.value
  | .items => .tuple [e.key, e.value]

/-- What a view shows of a mapping. -/
def Heap.viewed (h : Heap) (aspect : Aspect) (mapping : Nat) : List Value :=
  (((h.mapping? (.ref mapping)).map Mapping.entries).getD []).map aspect.of

/-- The items of a value of a known type that holds them all. -/
def Heap.coreItems? (h : Heap) (v : Value) : Option (List Value) :=
  match v with
  | .tuple items => some items
  | .text s => some (s.toList.map fun c => .text c.toString)
  | .bytes bs => some (bs.map fun b => .int b.toNat)
  | .ref address =>
    match h.get? address with
    | some (.list items) => some items.toList
    | some (.mapping entries) => some entries.keys
    | some (.names table) => some (table.map fun (k, _) => .text k)
    | some (.members owner _) => some ((h.shownAttributes owner).map fun (k, _) => .text k)
    | some (.set _ keys) => some keys.toList
    | some (.view aspect mapping) => some (h.viewed aspect mapping)
    | _ => none
  | _ => none

/-- The items of a value that holds them all, unless its class says otherwise. -/
def heldItems? (v : Value) : Native (Option (List Value)) := do
  let h ← Native.heap
  if h.isInstance v && (h.special? v "__iter__").isSome then return none
  else return h.coreItems? (h.core v)

/-- Whether an iterator is one that the next item can be taken from. -/
def Heap.isIterator (h : Heap) : Value → Bool
  | v@(.ref address) =>
    match h.get? address with
    | some (.iterator _) => true
    | some (.generator kind _ _) => kind == .generator
    | some (.instance_ _ _ _) => (h.special? v "__next__").isSome
    | _ => false
  | _ => false

/-- Whether the items of a value can be taken. -/
def Heap.isIterable (h : Heap) (v : Value) : Bool :=
  match h.special? v "__iter__" with
  | some .none => false
  | some _ => true
  | none =>
    match h.core v with
    | .text _ | .bytes _ | .tuple _ | .range _ _ _ => true
    | .ref address =>
      match h.get? address with
      | some (.list _) | some (.mapping _) | some (.set _ _) | some (.names _)
      | some (.members _ _) => true
      | some (.view _ _) | some (.iterator _) => true
      | some (.generator kind _ _) => kind == .generator
      | _ => (h.special? v "__getitem__").isSome
    | _ => false

/-- An iterator through a mapping. -/
def Heap.rowsOf (h : Heap) (aspect : Aspect) (mapping : Nat) (back : Bool) : Iterator :=
  let t := (h.mapping? (.ref mapping)).getD {}
  .rows aspect mapping (if back then t.rows.size else 0) t.size t.size back

/-- The iterator of a value. -/
def iteratorOf (v : Value) : Native Value := do
  let h ← Native.heap
  match h.special? v "__iter__" with
  | some method =>
    let it ← match method with
      | .none => Native.typeError s!"'{h.typeName v}' object is not iterable"
      | _ => askMethod v method []
    let h ← Native.heap
    if h.isIterator it then return it
    else Native.typeError s!"iter() returned non-iterator of type '{h.typeName it}'"
  | none =>
    let make (it : Iterator) : Native Value := Native.allocate (.iterator it)
    let refuse : Native Value :=
      match h.special? v "__getitem__" with
      | some _ => make (.indexed v 0 false)
      | none => Native.typeError s!"'{h.typeName v}' object is not iterable"
    match h.core v with
    | .range start stop step => make (.range start stop step)
    | .text s =>
      let cs := s.toList
      let ascii := cs.all fun c => c.toNat < 128
      make (.items (if ascii then "str_ascii_iterator" else "str_iterator")
        (cs.map fun c => .text c.toString))
    | .bytes bs =>
      let name := if (h.buffer? v).isSome then "bytearray_iterator" else "bytes_iterator"
      make (.items name (bs.map fun b => .int b.toNat))
    | .tuple items => make (.items "tuple_iterator" items)
    | .ref address =>
      match h.get? address with
      | some (.list _) => make (.listItems address 0)
      | some (.mapping _) | some (.names _) | some (.members _ _) =>
        make (h.rowsOf .keys address false)
      | some (.view aspect mapping) => make (h.rowsOf aspect mapping false)
      | some (.set _ keys) => make (.slots address 0 keys.size)
      | some (.iterator _) | some (.generator .generator _ _) => return v
      | _ => refuse
    | _ => refuse

/-- Replaces an iterator. -/
def setIterator (address : Nat) (it : Iterator) : Native Unit :=
  Native.modifyHeap fun h => h.set address (.iterator it)

/-- What was taken from an iterator: an item, or the value it ended with and the error that told
so, if there was one. -/
inductive Taken where
  | item (v : Value)
  | ended (v : Value) (error : Option Nat)

/-- The end of an iterator that has no more items. -/
def Taken.nothing : Taken := .ended .none none

/-- What a generator answered. -/
def Taken.ofAnswer : Value → Taken
  | .tuple [v] => .item v
  | .tuple [_, v] => .ended v none
  | _ => .nothing

/-- The answer in which something taken is passed on. -/
def Taken.toAnswer : Taken → Value
  | .item v => .tuple [v]
  | .ended v _ => .tuple [.none, v]

/-- The item that was taken; the end is an error. -/
def Taken.orFail : Taken → Native Value
  | .item v => return v
  | .ended _ (some error) => throw (.fail error false)
  | .ended .none none => Native.failWith "StopIteration" []
  | .ended v none => Native.failWith "StopIteration" [v]

/-- Whether an error ends an iteration. -/
def Heap.endsIteration (h : Heap) (error : Nat) : Bool :=
  match h.error? error with
  | some e => h.inherits e.kind (.type "StopIteration")
  | none => false

/-- What a method of an iterator gave: an item, or an error that may tell of the end. -/
def takenFrom (answer : Except Nat Value) : Native Taken := do
  match answer with
  | .ok item => return .item item
  | .error error =>
    let h ← Native.heap
    if h.endsIteration error then
      let args := ((h.error? error).map (·.args)).getD []
      return .ended (args.headD .none) (some error)
    else throw (.fail error false)

/-- What an iterator through a mapping gives next. -/
def nextRow (address : Nat) (aspect : Aspect) (mapping row size left : Nat) (back : Bool) :
    Native Taken := do
  let stop : Native Unit := setIterator address (.items (aspect.iteratorName back) [])
  match (← Native.heap).mapping? (.ref mapping) with
  | none => return .nothing
  | some t =>
    if t.size != size then
      setIterator address (.rows aspect mapping row (sizeLimit + 1) left back)
      Native.fail "RuntimeError" "dictionary changed size during iteration"
    else match if back then t.previous? row else t.next? row with
      | none =>
        stop
        return .nothing
      | some (e, row) =>
        if left = 0 then
          stop
          Native.fail "RuntimeError" "dictionary keys changed during iteration"
        else
          setIterator address (.rows aspect mapping row size (left - 1) back)
          return .item (aspect.of e)

/-- What an iterator through a set gives next. -/
def nextSlot (address set slot size : Nat) : Native Taken := do
  match (← Native.heap).set? (.ref set) with
  | none => return .nothing
  | some keys =>
    if keys.size != size then
      setIterator address (.slots set slot (sizeLimit + 1))
      Native.fail "RuntimeError" "Set changed size during iteration"
    else match keys.next? slot with
      | none =>
        setIterator address (.items "set_iterator" [])
        return .nothing
      | some (v, slot) =>
        setIterator address (.slots set slot size)
        return .item v

/-- What an iterator gives next that asks its owner for one index after the other. -/
def nextIndex (address : Nat) (owner : Value) (index : Int) (back : Bool) : Native Taken := do
  let h ← Native.heap
  let answer ← match decide (index < 0), h.special? owner "__getitem__" with
    | false, some method =>
      try
        let v ← askMethod owner method [.int index]
        pure (Except.ok v)
      catch
        | .fail error fresh => pure (Except.error (error, fresh))
        | halt => throw halt
    | _, _ => return .nothing
  match answer with
  | .ok v =>
    setIterator address (.indexed owner (if back then index - 1 else index + 1) back)
    return .item v
  | .error (error, fresh) =>
    let h ← Native.heap
    let kind := ((h.error? error).map (·.kind)).getD .none
    if h.inherits kind (.type "IndexError") || h.endsIteration error then
      setIterator address (.items (Iterator.indexed owner index back).typeName [])
      return .nothing
    else throw (.fail error fresh)

/-- The complaint of a strict `zip` about an iterator that ends before or after those before it. -/
def unevenRows {α : Type} (index : Nat) (word : String) : Native α :=
  let others := if index = 1 then " 1" else s!"s 1-{index}"
  Native.valueError s!"zip() argument {index + 1} is {word} than argument{others}"

/-- Whether an error is the end of an asynchronous generator. -/
def endsAsync (error : Nat) : Native Bool := do
  let h ← Native.heap
  let kind := ((h.error? error).map (·.kind)).getD .none
  return ["StopAsyncIteration", "GeneratorExit"].any fun name => h.inherits kind (.type name)

/-- What comes next in a step of an asynchronous generator. The item that the generator hands out is
what the step ends with. -/
def nextStep (address : Nat) (name : String) (generator : Nat) (sent : Value)
    (error : Option Nat) (ends started finished : Bool) : Native Taken := do
  if finished then
    Native.fail "RuntimeError" s!"cannot reuse already awaited {stepPhrase name}"
  let step (finished : Bool) : Iterator :=
    .asyncStep name generator .none none ends true finished
  let how : Resumption := match error with
    | some error => if started then .send .none else .throw error
    | none => .send sent
  match ← Native.tryAsk (.resume generator how) with
  | .ok answer =>
    match Taken.ofAnswer answer with
    | .item v =>
      setIterator address (step false)
      return .item v
    | .ended v e =>
      setIterator address (step true)
      if ends then Native.fail "RuntimeError" "async generator ignored GeneratorExit"
      return .ended v e
  | .error e =>
    setIterator address (step true)
    if ends && (← endsAsync e) then return .nothing else throw (.fail e false)
where
  /-- How a step is called in a complaint. -/
  stepPhrase (name : String) : String :=
    if name == "async_generator_asend" then "__anext__()/asend()" else "aclose()/athrow()"

mutual

/-- What comes next in an iterator; `fuel` bounds how many iterators feed each other. -/
def nextIn : Nat → Value → Native Taken
  | 0, _ => return .nothing
  | fuel + 1, v => do
    let h ← Native.heap
    match v with
    | .ref address =>
      match h.get? address with
      | some (.generator _ _ _) =>
        return .ofAnswer (← Native.askValue (.resume address (.send .none)))
      | some (.iterator it) =>
        match it with
        | .items typeName rest =>
          match rest with
          | [] => return .nothing
          | item :: rest =>
            setIterator address (.items typeName rest)
            return .item item
        | .listItems list index =>
          match (h.list? (.ref list)).bind (·[index]?) with
          | some item =>
            setIterator address (.listItems list (index + 1))
            return .item item
          | none =>
            setIterator address (.items "list_iterator" [])
            return .nothing
        | .listBack list index =>
          match index, (h.list? (.ref list)).bind (·[index - 1]?) with
          | index + 1, some item =>
            setIterator address (.listBack list index)
            return .item item
          | _, _ =>
            setIterator address (.items "list_reverseiterator" [])
            return .nothing
        | .rows aspect mapping row size left back =>
          nextRow address aspect mapping row size left back
        | .slots set slot size => nextSlot address set slot size
        | .indexed owner index back => nextIndex address owner index back
        | .range next stop step =>
          if rangeSize next stop step = 0 then return .nothing
          else
            setIterator address (.range (next + step) stop step)
            return .item (.int next)
        | .map function sources =>
          Native.mark
          match ← nextAllIn fuel sources with
          | .ok args => takenFrom (← Native.tryAsk (.call function args []))
          | .error (_, taken) => return taken
        | .filter function source =>
          Native.mark
          nextWhereIn fuel function source itemLimit
        | .zip sources strict =>
          Native.mark
          if sources.isEmpty then return .nothing
          else match ← nextAllIn fuel sources with
            | .ok items => return .item (.tuple items)
            | .error (n, .ended v error) =>
              if strict then checkEven fuel n sources
              return .ended v error
            | .error (_, taken) => return taken
        | .enumerate source count =>
          Native.mark
          match ← nextIn fuel source with
          | .item item =>
            setIterator address (.enumerate source (count + 1))
            return .item (.tuple [.int count, item])
          | taken => return taken
        | .untilSentinel function sentinel =>
          let item ← takenFrom (← Native.tryAsk (.call function [] []))
          match item with
          | .item v =>
            if ← same sentinel v then
              setIterator address (.items "callable_iterator" [])
              return .nothing
            else return item
          | taken => return taken
        | .asyncStep name generator sent error ends started finished =>
          nextStep address name generator sent error ends started finished
        | .waiting coroutine =>
          return .ofAnswer (← Native.askValue (.resume coroutine (.send .none)))
      | _ =>
        match h.special? v "__next__" with
        | some method =>
          let answer ← try
              let item ← askMethod v method []
              pure (Except.ok item)
            catch
              | .fail error false => pure (Except.error error)
              | halt => throw halt
          takenFrom answer
        | none => Native.typeError s!"'{h.typeName v}' object is not an iterator"
    | _ => Native.typeError s!"'{h.typeName v}' object is not an iterator"

/-- What comes next in iterators in a row, or the number of the one that ends. -/
def nextAllIn : Nat → List Value → Native (Except (Nat × Taken) (List Value))
  | 0, _ => return .error (0, .nothing)
  | _ + 1, [] => return .ok []
  | fuel + 1, source :: rest => do
    match ← nextIn fuel source with
    | .item item =>
      match ← nextAllIn fuel rest with
      | .ok items => return .ok (item :: items)
      | .error (n, taken) => return .error (n + 1, taken)
    | taken => return .error (0, taken)

/-- Checks that all iterators end together once one of them has ended. -/
def checkEven : Nat → Nat → List Value → Native Unit
  | 0, _, _ => return
  | fuel + 1, ended, sources => do
    if 0 < ended then unevenRows ended "shorter"
    match ← nextEven fuel 1 sources.tail with
    | some n => unevenRows n "longer"
    | none => return

/-- The number of the first iterator that has another item, counted from the given number. -/
def nextEven : Nat → Nat → List Value → Native (Option Nat)
  | 0, _, _ => return none
  | _ + 1, _, [] => return none
  | fuel + 1, n, source :: rest => do
    match ← nextIn fuel source with
    | .item _ => return some n
    | _ => nextEven fuel (n + 1) rest

/-- The next item that a function accepts, among at most `tries` ones. -/
def nextWhereIn : Nat → Value → Value → Nat → Native Taken
  | 0, _, _, _ => return .nothing
  | _ + 1, _, _, 0 => Native.endless
  | fuel + 1, function, source, tries + 1 => do
    match ← nextIn fuel source with
    | .item item =>
      let answer ← match function with
        | .none => pure (.item item)
        | _ => takenFrom (← Native.tryAsk (.call function [item] []))
      match answer with
      | .item answer =>
        if ← truthOf answer then return .item item
        else nextWhereIn fuel function source tries
      | taken => return taken
    | taken => return taken

end

/-- What comes next in an iterator. -/
def nextOf (v : Value) : Native Taken := nextIn 1000 v

/-- All items of a value. -/
def itemsOf (v : Value) : Native (List Value) := do
  match v with
  | .range start stop step => rangeItems start stop step
  | _ =>
    match ← heldItems? v with
    | some items => return items
    | none =>
      let it ← iteratorOf v
      match ← Native.askValue (.collect it) with
      | .tuple items => return items
      | _ => return []

/-- At most so many items of an iterator. -/
def takeItems (it : Value) : Nat → Native (List Value)
  | 0 => return []
  | n + 1 => do
    match ← nextOf it with
    | .item v => return v :: (← takeItems it n)
    | .ended _ _ => return []

/-- Whether an item of an iterable value equals another value; items after it are not taken. -/
def foundIn (container v : Value) : Native Bool := do
  match ← Native.askValue (.walk (.find v) (← iteratorOf container) .none) with
  | .bool found => return found
  | _ => return false

/-- Whether a value is among the items of a container of a known type; none if it is no
container. -/
def coreContains? (container v : Value) : Native (Option Bool) := do
  let h ← Native.heap
  match container, h.core v with
  | .text s, .text part => return some ((s.splitOn part).length != 1 || part.isEmpty)
  | .text _, _ =>
    Native.typeError s!"'in <string>' requires string as left operand, not {h.typeName v}"
  | .bytes bs, .bytes part =>
    return some ((List.range (bs.length + 1)).any fun i => part.isPrefixOf (bs.drop i))
  | .bytes bs, w =>
    match w.int? with
    | some n =>
      if 0 ≤ n ∧ n < 256 then return some (bs.contains n.toNat.toUInt8)
      else Native.valueError "byte must be in range(0, 256)"
    | none => Native.typeError s!"a bytes-like object is required, not '{h.typeName v}'"
  | .range start stop step, w =>
    match v, w.int? with
    | .int _, some n | .bool _, some n =>
      return some (if 0 < step then start ≤ n && n < stop && (n - start) % step == 0
        else n ≤ start && stop < n && (start - n) % (-step) == 0)
    | _, _ => return some (← (← rangeItems start stop step).anyM (same · v))
  | .tuple items, _ => return some (← items.anyM (same · v))
  | .ref address, _ =>
    match h.get? address with
    | some (.list items) => return some (← items.toList.anyM (same · v))
    | some (.mapping _) | some (.names _) | some (.members _ _) =>
      return some (← ((h.mapping? container).getD {}).lookup v).isSome
    | some (.set _ keys) => return some (← keys.contains (← setKey v))
    | some (.view aspect mapping) =>
      let t := (h.mapping? (.ref mapping)).getD {}
      match aspect, v with
      | .keys, _ => return some (← t.lookup v).isSome
      | .values, _ => return some (← t.values.anyM (same · v))
      | .items, .tuple [key, w] =>
        match ← t.lookup key with
        | some e => return some (← same e.value w)
        | none => return some false
      | .items, _ => return some false
    | _ => return none
  | _, _ => return none

/-- Whether a value is among the items of a container. -/
def contains (container v : Value) : Native Bool := do
  let h ← Native.heap
  let refuse : Native Bool :=
    Native.typeError s!"argument of type '{h.typeName container}' is not iterable"
  match h.special? container "__contains__" with
  | some .none => Native.typeError s!"'{h.typeName container}' object is not a container"
  | some method => truthOf (← askMethod container method [v])
  | none =>
    match ← coreContains? (h.core container) v with
    | some found => return found
    | none => if h.isIterable container then foundIn container v else refuse

end SnippetRunner.Evaluation
