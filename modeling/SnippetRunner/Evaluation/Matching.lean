import SnippetRunner.Evaluation.Builtin

/-!
# Comparing values with patterns

What a value has to be for the parts of a pattern, and which of its parts are compared further.
-/

namespace SnippetRunner.Evaluation

open SnippetRunner.Snippet

/-! ## Sequences -/

/-- Takes the items of a value apart: so many, with a list of the others at a place among them if
one is wanted. -/
def unpackItems (count : Nat) (rest : Option Nat) (v : Value) : Native Value := do
  let h ← Native.heap
  if ! h.isIterable v then
    Native.typeError s!"cannot unpack non-iterable {h.typeName v} object"
  let items ← match rest, ← heldItems? v with
    | _, some items => pure items
    | some _, none => itemsOf v
    | none, none => do
      Native.mark
      takeItems (← iteratorOf v) (count + 1)
  let n := items.length
  match rest with
  | none =>
    if n < count then
      Native.valueError s!"not enough values to unpack (expected {count}, got {n})"
    else if count < n then Native.valueError s!"too many values to unpack (expected {count})"
    else return .tuple items
  | some before =>
    if n < count then
      Native.valueError s!"not enough values to unpack (expected at least {count}, got {n})"
    else
      let after := count - before
      let middle ← newList ((items.drop before).take (n - count))
      return .tuple (items.take before ++ [middle] ++ items.drop (n - after))

/-- The known types whose values are sequences for a pattern. -/
def sequenceKinds : List String := ["list", "tuple", "range", "collections.deque"]

/-- Whether a value is a sequence for a pattern. -/
def isSequence (v : Value) : Native Bool := do
  let h ← Native.heap
  return sequenceKinds.any fun kind => h.inherits (h.typeOf v) (.type kind)

/-- The items of a sequence before and after some others, each taken by its place. -/
def itemsAround (v : Value) (length before after : Nat) : Native (List Value) := do
  let first ← (List.range before).mapM fun (i : Nat) => itemOf v (.int i)
  let last ← (List.range after).mapM fun (i : Nat) => itemOf v (.int (length - after + i : Nat))
  return first ++ last

/-- The parts of a sequence that patterns look at, or nothing if it is none of such a length.
`count` patterns look at one item each; one among them that takes the others stands after `rest`
of them. -/
def matchSequence (count : Nat) (rest : Option Nat) (blank skips : Bool) (v : Value) :
    Native Value := do
  if ! (← isSequence v) then return .none
  let fits ← match rest with
    | none => do pure ((← lengthOf v) == count)
    | some _ => if count = 0 then pure true else do pure (count ≤ (← lengthOf v))
  if ! fits then return .none
  else if blank then return .tuple []
  else match rest, skips with
    | some before, true =>
      return .tuple (← itemsAround v (← lengthOf v) before (count - before))
    | _, _ => unpackItems count rest v

/-! ## Mappings -/

/-- Whether a value is a mapping for a pattern that asks for so many keys. -/
def matchesMapping (count : Nat) (v : Value) : Native Bool := do
  let h ← Native.heap
  let kinds := ["dict", "mappingproxy"]
  if ! kinds.any fun kind => h.inherits (h.typeOf v) (.type kind) then return false
  else if count = 0 then return true
  else return count ≤ (← lengthOf v)

/-- Refuses keys of which one occurs twice. -/
def checkDistinct (seen : KeySet) : List Value → Native Unit
  | [] => return
  | key :: rest => do
    if ← seen.contains key then
      Native.valueError s!"mapping pattern checks duplicate key ({← inspect key})"
    checkDistinct (← seen.withKey key) rest

/-- The values under keys of a mapping, with the other entries if they are wanted; nothing if a key
is not there. -/
def matchKeys (others : Bool) (v : Value) (keys : List Value) : Native Value := do
  checkDistinct {} keys
  let h ← Native.heap
  match h.mapping? v with
  | none => return .none
  | some t =>
    let found ← keys.mapM fun key => t.lookup key
    if found.any Option.isNone then return .none
    let values := found.filterMap fun e => e.map Entry.value
    if ! others then return .tuple values
    let left ← keys.foldlM (fun (t : Mapping) key => do
      match ← t.locate key with
      | (_, some row) => return t.removeAt row
      | (_, none) => return t) (← Mapping.withEntries {} t.toList)
    return .tuple (values ++ [← Native.allocate (.mapping left)])

/-! ## Values of classes -/

/-- The known types whose values are themselves what the only pattern by position looks at. -/
def selfKinds : List String :=
  ["bool", "bytearray", "bytes", "dict", "float", "frozenset", "int", "list", "set", "str", "tuple"]

/-- An attribute that a pattern looks at; none if the value does not have it. -/
def patternAttribute (kind : Value) (seen : List String) (v : Value) (name : String) :
    Native (Option Value) := do
  if seen.contains name then
    let h ← Native.heap
    Native.typeError
      s!"{h.kindName kind}() got multiple sub-patterns for attribute {← inspect (.text name)}"
  memberOf? v name

/-- Attributes that patterns look at; none if the value lacks one. -/
def patternAttributes (kind : Value) (seen : List String) (v : Value) :
    List String → Native (Option (List Value))
  | [] => return some []
  | name :: rest => do
    match ← patternAttribute kind seen v name with
    | none => return none
    | some member =>
      match ← patternAttributes kind (seen ++ [name]) v rest with
      | none => return none
      | some members => return some (member :: members)

/-- The names of the attributes that a class gives to positions; none if its values stand for
themselves there. -/
def positionNames (kind : Value) : Native (Option (List Value)) := do
  let h ← Native.heap
  match ← memberOf? kind "__match_args__" with
  | some (.tuple names) => return some names
  | some v =>
    Native.typeError s!"{h.kindName kind}.__match_args__ must be a tuple (got {h.typeName v})"
  | none =>
    return if selfKinds.any fun known => h.inherits kind (.type known) then none else some []

/-- A name of an attribute, which has to be a text. -/
def attributeName (v : Value) : Native String := do
  match v with
  | .text name => return name
  | _ =>
    let h ← Native.heap
    Native.typeError s!"__match_args__ elements must be strings (got {h.typeName v})"

/-- What the patterns by position look at, with the names of the attributes; none if the value lacks
one. -/
def positionalParts (kind : Value) (count : Nat) (v : Value) :
    Native (Option (List String × List Value)) := do
  if count = 0 then return some ([], [])
  let names ← positionNames kind
  let allowed := (names.map List.length).getD 1
  if allowed < count then
    let h ← Native.heap
    let plural := if allowed = 1 then "" else "s"
    Native.typeError
      s!"{h.kindName kind}() accepts {allowed} positional sub-pattern{plural} ({count} given)"
  match names with
  | none => return some ([], [v])
  | some names =>
    let names ← (names.take count).mapM attributeName
    match ← patternAttributes kind [] v names with
    | none => return none
    | some members => return some (names, members)

/-- What the patterns for a value of a class look at: `count` by position, the others by name.
Nothing if it is no such value or lacks an attribute. -/
def matchInstance (count : Nat) (names : List String) (v kind : Value) : Native Value := do
  let h ← Native.heap
  if ! h.isKind kind then Native.typeError "called match pattern must be a type"
  if ! (← isInstanceOf v kind) then return .none
  match ← positionalParts kind count v with
  | none => return .none
  | some (seen, first) =>
    match ← patternAttributes kind seen v names with
    | none => return .none
    | some others => return .tuple (first ++ others)

end SnippetRunner.Evaluation
