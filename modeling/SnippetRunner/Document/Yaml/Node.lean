import SnippetRunner.Document.Yaml.Lexer
import SnippetRunner.Document.Yaml.Tag

/-!
# Nodes

A document as a tree of scalars, sequences and mappings, each with its kind. An alias stands for
the node that was marked with its name before; inside that node itself it tells how far out the
node is. There is at most one document.
-/

namespace SnippetRunner.Document.Yaml

/-- A part of a document. -/
inductive Node where
  | scalar (tag : Tag) (text : String)
  | sequence (tag : Tag) (items : List Node)
  | mapping (tag : Tag) (entries : List (Node × Node))
  /-- The collection that this is in, some collections out. -/
  | again (up : Nat) (isList : Bool)
  deriving Repr

/-- What the name of a node stands for. -/
inductive Anchor where
  | node (n : Node)
  /-- A collection that is being read, by the room there was before it. -/
  | around (room : Nat) (isList : Bool)

/-- What the reading of nodes goes on with. -/
structure Composer where
  rest : List Token
  /-- What is met after these tokens, if that is not the end of the document. -/
  fault : Option Refusal := none
  /-- What the handles of tags stand for. -/
  handles : List (String × String)
  anchors : List (String × Anchor) := []
  /-- How deeply collections may still be nested. -/
  room : Nat := 488

/-- A part of the reading. -/
abbrev Compose := StateT Composer (Except Refusal)

namespace Compose

/-- Refuses the document. -/
def malformed {α : Type} : Compose α := throw .malformed

/-- The next token. -/
def peek : Compose (Option Token) := do
  let s ← get
  match s.rest, s.fault with
  | t :: _, _ => return some t
  | [], some refusal => throw refusal
  | [], none => return none

/-- Whether the next token is one of some. -/
def nextIs (ts : List Token) : Compose Bool := return (← peek).any ts.contains

/-- Goes past a token. -/
def skip : Compose Unit := modify fun s => { s with rest := s.rest.drop 1 }

/-- Goes past a token that has to be next. -/
def expect (t : Token) : Compose Unit := do
  if ← nextIs [t] then skip else malformed

/-- Goes past a token if it is next; whether it was. -/
def accept (t : Token) : Compose Bool := do
  if ← nextIs [t] then
    skip
    return true
  else return false

/-! ## Properties of a node -/

/-- What stands before a node: its name for aliases and its tag. -/
structure Properties where
  anchor : Option String := none
  /-- The full name of the tag. -/
  tag : Option String := none

/-- Takes an anchor, if one is next. -/
def anchor? : Compose (Option String) := do
  match ← peek with
  | some (.anchor name) =>
    skip
    return some name
  | _ => return none

/-- Takes a tag, if one is next: its handle and the rest. -/
def tag? : Compose (Option (Option String × String)) := do
  match ← peek with
  | some (.tag handle suffix) =>
    skip
    return some (handle, suffix)
  | _ => return none

/-- The full name of a tag. -/
def fullName : Option String × String → Compose String
  | (none, suffix) => return suffix
  | (some handle, suffix) => do
    match (← get).handles.lookup handle with
    | some start => return start ++ suffix
    | none => malformed

/-- Takes an anchor and a tag, in either order. -/
def properties : Compose Properties := do
  let before ← anchor?
  let tag ← tag?
  let anchor ← if before.isNone && tag.isSome then anchor? else pure before
  return { anchor, tag := ← tag.mapM fullName }

/-- The kind of a node whose tag says nothing if it is missing or a lone exclamation mark. -/
def Properties.kind (p : Properties) (usual : Tag) : Tag :=
  match p.tag with
  | none | some "!" => usual
  | some name => .ofName name

/-- The kind of a scalar: a plain one without a tag is what it looks like, and so is any with a
lone exclamation mark. -/
def Properties.scalarKind (p : Properties) (text : String) (style : ScalarStyle) : Tag :=
  p.kind (if style = .plain ∨ p.tag = some "!" then .ofPlain text else .text)

/-- Gives a node its name. -/
def name (p : Properties) (node : Node) : Compose Unit :=
  match p.anchor with
  | none => return
  | some id => modify fun s => { s with anchors := (id, .node node) :: s.anchors }

/-- The node that an alias stands for. -/
def aliased (id : String) : Compose Node := do
  let s ← get
  match s.anchors.lookup id with
  | some (.node n) => return n
  | some (.around room isList) => return .again (room - s.room - 1) isList
  | none => malformed

/-- Reads a collection; while it is being read, its name stands for what is around. -/
def named (p : Properties) (isList : Bool) (body : Compose Node) : Compose Node := do
  if let some id := p.anchor then
    modify fun s => { s with anchors := (id, .around s.room isList) :: s.anchors }
  let node ← body
  name p node
  return node

/-- Goes into a collection. -/
def enter : Compose Unit := do
  let s ← get
  if s.room = 0 then throw .tooDeep
  set { s with room := s.room - 1 }

/-- Leaves a collection. -/
def leave : Compose Unit := modify fun s => { s with room := s.room + 1 }

/-- Reads what is in a collection. -/
def within {α : Type} (body : Compose α) : Compose α := do
  enter
  let inside ← body
  leave
  return inside

/-! ## Nodes -/

/-- A node that is left out. -/
def empty : Node := .scalar .null ""

mutual

/-- Reads a node. In a block, collections may be indented; `level` tells whether the entries of a
sequence may stand at the indentation of the mapping around it. -/
def node (block level : Bool) : Nat → Compose Node
  | 0 => malformed
  | fuel + 1 => do
    match ← peek with
    | some (.reference id) =>
      skip
      aliased id
    | _ =>
      let p ← properties
      let next ← peek
      if p.anchor.any ((← get).anchors.lookup · |>.isSome) then malformed
      let sequence (items : Compose (List Node)) : Compose Node :=
        let tag := p.kind .sequence
        named p true (return .sequence tag (← within items))
      let mapping (entries : Compose (List (Node × Node))) : Compose Node :=
        let tag := p.kind .mapping
        named p false (return .mapping tag (← within entries))
      match next with
      | some .entry =>
        if level then sequence (levelItems fuel) else left p
      | some (.scalar text style) =>
        skip
        let node := Node.scalar (p.scalarKind text style) text
        name p node
        return node
      | some .flowSequence =>
        skip
        sequence (flowItems true fuel)
      | some .flowMapping =>
        skip
        mapping (flowEntries true fuel)
      | some .blockSequence =>
        if block then
          skip
          sequence (blockItems fuel)
        else left p
      | some .blockMapping =>
        if block then
          skip
          mapping (blockEntries fuel)
        else left p
      | _ => left p
where
  /-- A node that is left out after its properties. -/
  left (p : Properties) : Compose Node := do
    if p.anchor.isNone && p.tag.isNone then malformed
    else
      let node := Node.scalar (p.kind .null) ""
      name p node
      return node

/-- Reads a node, or leaves it out before one of some tokens. -/
def nodeBefore (stops : List Token) (block level : Bool) : Nat → Compose Node
  | 0 => malformed
  | fuel + 1 => do
    if ← nextIs stops then return empty else node block level fuel

/-- Reads the items of a block sequence. -/
def blockItems : Nat → Compose (List Node)
  | 0 => malformed
  | fuel + 1 => do
    if ← accept .entry then
      let item ← nodeBefore [.entry, .blockEnd] true false fuel
      return item :: (← blockItems fuel)
    else
      expect .blockEnd
      return []

/-- Reads the items of a sequence that is not indented. -/
def levelItems : Nat → Compose (List Node)
  | 0 => malformed
  | fuel + 1 => do
    if ← accept .entry then
      let item ← nodeBefore [.entry, .key, .value, .blockEnd] true false fuel
      return item :: (← levelItems fuel)
    else return []

/-- Reads the entries of a block mapping. -/
def blockEntries : Nat → Compose (List (Node × Node))
  | 0 => malformed
  | fuel + 1 => do
    if ← accept .key then
      let stops := [Token.key, .value, .blockEnd]
      let key ← nodeBefore stops true true fuel
      let value ← if ← accept .value then nodeBefore stops true true fuel else pure empty
      return (key, value) :: (← blockEntries fuel)
    else
      expect .blockEnd
      return []

/-- Reads the items of a flow sequence; a key among them makes a mapping of one entry. -/
def flowItems (first : Bool) : Nat → Compose (List Node)
  | 0 => malformed
  | fuel + 1 => do
    if ← accept .flowSequenceEnd then return []
    else
      if ! first then expect .flowEntry
      if ← accept .key then
        enter
        let key ← nodeBefore [.value, .flowEntry, .flowSequenceEnd] false false fuel
        let value ← if ← accept .value
          then nodeBefore [.flowEntry, .flowSequenceEnd] false false fuel
          else pure empty
        leave
        return .mapping .mapping [(key, value)] :: (← flowItems false fuel)
      else if ← accept .flowSequenceEnd then return []
      else
        let item ← node false false fuel
        return item :: (← flowItems false fuel)

/-- Reads the entries of a flow mapping; a node without a key indicator has no value. -/
def flowEntries (first : Bool) : Nat → Compose (List (Node × Node))
  | 0 => malformed
  | fuel + 1 => do
    if ← accept .flowMappingEnd then return []
    else
      if ! first then expect .flowEntry
      if ← accept .key then
        let key ← nodeBefore [.value, .flowEntry, .flowMappingEnd] false false fuel
        let value ← if ← accept .value
          then nodeBefore [.flowEntry, .flowMappingEnd] false false fuel
          else pure empty
        return (key, value) :: (← flowEntries false fuel)
      else if ← accept .flowMappingEnd then return []
      else
        let key ← node false false fuel
        return (key, empty) :: (← flowEntries false fuel)

end

/-! ## Documents -/

/-- The handles of tags that every document has. -/
def usualHandles : List (String × String) := [("!", "!"), ("!!", Tag.common)]

/-- Takes directives: whether a version was given, and the handles that were defined. -/
def directives (version : Bool) (handles : List (String × String)) :
    Nat → Compose (List (String × String))
  | 0 => malformed
  | fuel + 1 => do
    match ← peek with
    | some (.directive "YAML" (major, _)) =>
      if version || major.toNat? != some 1 then malformed
      else
        skip
        directives true handles fuel
    | some (.directive "TAG" (handle, start)) =>
      if (handles.lookup handle).isSome then malformed
      else
        skip
        directives version ((handle, start) :: handles) fuel
    | some (.directive _ _) =>
      skip
      directives version handles fuel
    | _ => return handles ++ usualHandles

/-- Goes past the ends of documents. -/
def documentEnds : Compose Unit :=
  modify fun s => { s with rest := s.rest.dropWhile (· == .documentEnd) }

/-- Whether the next token begins or ends a document, or there is none. -/
def atBoundary : Compose Bool := do
  match ← peek with
  | none | some (.directive _ _) | some .documentStart | some .documentEnd => return true
  | _ => return false

/-- Reads the start of a document after its directives. -/
def documentStart (fuel : Nat) : Compose Unit := do
  let handles ← directives false [] fuel
  modify fun s => { s with handles }
  expect .documentStart

/-- Reads the document, if there is one; nothing may follow it. -/
def document (fuel : Nat) : Compose (Option Node) := do
  let explicit ← match ← peek with
    | none | some (.directive _ _) | some .documentStart => pure true
    | _ => pure false
  if explicit && (← peek).isNone then return none
  else
    if explicit then documentStart fuel
    let root ← if explicit && (← atBoundary) then pure empty else node true false fuel
    documentEnds
    if (← peek).isSome then
      -- another document begins, or something that is none
      documentStart fuel
      malformed
    return some root

end Compose

/-- The tree of a document; none if it says nothing. -/
def compose (source : Source) : Except Refusal (Option Node) :=
  let (rest, fault) := tokens source
  (Compose.document (4 * rest.length + 4)).run' { rest, fault, handles := Compose.usualHandles }

end SnippetRunner.Document.Yaml
