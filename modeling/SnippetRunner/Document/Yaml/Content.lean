import SnippetRunner.Data
import SnippetRunner.Document.Yaml.Node
import SnippetRunner.Number.Reading
import SnippetRunner.Text.Encoding
import SnippetRunner.Text.LetterCase

/-!
# What a document says

Turns the tree of a document into plain data. A mapping may take over the entries of others; its
own entries win over those. Of several faults the one nearest to the root counts, and of these the
first.
-/

namespace SnippetRunner.Document.Yaml

/-! ## Scalars -/

mutual

/-- The text of a scalar. A mapping with a key that stands for the whole has the text of that
key's value. -/
def Node.scalarText? : Node → Option String
  | .scalar _ text => some text
  | .sequence _ _ | .again _ _ => none
  | .mapping _ entries => standInText? entries

/-- The text of the first value whose key stands for the whole mapping. -/
def standInText? : List (Node × Node) → Option String
  | [] => none
  | (.scalar .standIn _, value) :: _ => value.scalarText?
  | _ :: rest => standInText? rest

end

/-- The tag of a node. -/
def Node.tag : Node → Tag
  | .scalar tag _ => tag
  | .sequence tag _ => tag
  | .mapping tag _ => tag
  | .again _ isList => if isList then .sequence else .mapping

/-- A number's text without underscores: its sign and what follows, which begins with a
character. -/
def signedBody (text : String) : Except Refusal (Bool × String) := do
  let cs := text.toList.filter (· != '_')
  let (negative, body) := Number.readSign cs
  if cs.isEmpty then throw .noDigits
  return (negative, String.ofList body)

/-- Reads a decimal integer. -/
def decimalInteger (text : String) : Except Refusal Int :=
  (Number.readInt text).mapError fun
    | .malformed => .noInteger 10 text
    | .tooLong digits => .longInteger digits

/-- Reads an integer in a base. -/
def integerIn (base : Nat) (text : String) : Except Refusal Int :=
  (Number.readInBase base text).mapError fun
    | .malformed => .noInteger base text
    | .tooLong digits => .longInteger digits

/-- The text after its first characters. -/
def after (n : Nat) (text : String) : String := String.ofList (text.toList.drop n)

/-- The parts of a text between colons. -/
def sixtieths (text : String) : List String := (Tag.colonParts text.toList).map String.ofList

/-- Reads an integer. -/
def readInteger (text : String) : Except Refusal Int := do
  let (negative, body) ← signedBody text
  let n ← match body.toList with
    | [] => throw .noDigits
    | ['0'] => pure 0
    | '0' :: 'b' :: _ => integerIn 2 (after 2 body)
    | '0' :: 'x' :: _ => integerIn 16 (after 2 body)
    | '0' :: _ => integerIn 8 body
    | cs =>
      if cs.contains ':' then
        let parts ← (sixtieths body).mapM decimalInteger
        pure (parts.foldl (fun n part => 60 * n + part) 0)
      else decimalInteger body
  return if negative then -n else n

/-- Reads a float from decimal digits. -/
def decimalFloat (text : String) : Except Refusal Float :=
  match Number.readFloat? text with
  | some x => .ok x
  | none => .error (.noFloat text)

/-- The value of parts of sixty, the last one first; each part is worth sixty times as much as
the one before. -/
def sumSixtieths (base : Nat) (sum : Float) : List Float → Float
  | [] => sum
  | part :: rest => sumSixtieths (base * 60) (sum + part * (Number.ofInt? base).getD 0.0) rest

/-- Reads a float. -/
def readFloat (text : String) : Except Refusal Float := do
  let (negative, body) ← signedBody (Text.lower text)
  let x ←
    if body == ".inf" then pure (1.0 / 0.0)
    else if body == ".nan" then return 0.0 / 0.0
    else if body.toList.contains ':' then
      pure (sumSixtieths 1 0.0 (← (sixtieths body).mapM decimalFloat).reverse)
    else decimalFloat body
  return if negative then -x else x

/-- Reads a truth value. -/
def readTruth (text : String) : Except Refusal Bool :=
  let word := Text.lower text
  if ["yes", "true", "on"].contains word then .ok true
  else if ["no", "false", "off"].contains word then .ok false
  else .error (.noTruth word)

/-- Reads a date; a line break at its end does not count. -/
def readMoment (text : String) : Except Refusal Data :=
  let cs := text.toList
  match Tag.readMoment? (if cs.getLast? = some '\n' then cs.dropLast else cs) with
  | none => .error .noDate
  | some m =>
    match m.complaint? with
    | some complaint => .error (.noMoment complaint)
    | none => .ok (.moment m)

/-- What a scalar with a text says. -/
def scalarData (tag : Tag) (text : String) : Except Refusal Data := do
  match tag with
  | .null => return .null
  | .truth => return .bool (← readTruth text)
  | .integer => return .int (← readInteger text)
  | .float => return .float (← readFloat text)
  | .moment => readMoment text
  | .text => return .text text
  | .bytes =>
    match Text.decodeBase64? text with
    | some bytes => return .bytes bytes
    | none => throw .malformed
  | _ => throw .malformed

/-! ## Entries that are taken over -/

mutual

/-- The entries that a mapping takes over, and its own. -/
def split : List (Node × Node) → Except Refusal (List (Node × Node) × List (Node × Node))
  | [] => return ([], [])
  | (key, value) :: rest =>
    match key with
    | .scalar .merge _ => do
      let more ← takenOver value
      let (taken, own) ← split rest
      return (more ++ taken, own)
    | .scalar .standIn text => do
      let (taken, own) ← split rest
      return (taken, (.scalar .text text, value) :: own)
    | _ => do
      let (taken, own) ← split rest
      return (taken, (key, value) :: own)

/-- The entries of a mapping, or of a sequence of mappings, the last one first. -/
def takenOver : Node → Except Refusal (List (Node × Node))
  | .mapping _ entries => do
    let (taken, own) ← split entries
    return taken ++ own
  | .sequence _ items => takenOverAll items
  | .again _ _ => return []
  | .scalar _ _ => throw .malformed

/-- The entries of mappings, the last one first. -/
def takenOverAll : List Node → Except Refusal (List (Node × Node))
  | [] => return []
  | .mapping _ entries :: rest => do
    let (taken, own) ← split entries
    return (← takenOverAll rest) ++ (taken ++ own)
  | .again _ false :: rest => takenOverAll rest
  | _ :: _ => throw .malformed

end

/-- The entries of a mapping: those that it takes over, then its own. -/
def entriesOf (entries : List (Node × Node)) : Except Refusal (List (Node × Node)) := do
  let (taken, own) ← split entries
  return taken ++ own

/-! ## Data -/

/-- A fault, and how far from the root it is. -/
structure Fault where
  depth : Nat
  refusal : Refusal
  deriving Repr, DecidableEq

/-- All values; of several faults the one nearest to the root, and of these the first. -/
def gather {α : Type} : List (Except Fault α) → Except Fault (List α)
  | [] => .ok []
  | r :: rest =>
    match r, gather rest with
    | .ok v, .ok vs => .ok (v :: vs)
    | .ok _, .error f => .error f
    | .error e, .ok _ => .error e
    | .error e, .error f => .error (if f.depth < e.depth then f else e)

/-- A key has to be a scalar. -/
def isKey : Data → Bool
  | .list _ | .mapping _ | .set _ | .again _ _ => false
  | _ => true

mutual

/-- How deep a node goes. -/
def Node.depth : Node → Nat
  | .scalar _ _ | .again _ _ => 1
  | .sequence _ items => depthOfItems items + 1
  | .mapping _ entries => depthOfEntries entries + 1

/-- How deep the deepest of some nodes goes. -/
def depthOfItems : List Node → Nat
  | [] => 0
  | node :: rest => max node.depth (depthOfItems rest)

/-- How deep the deepest key or value goes. -/
def depthOfEntries : List (Node × Node) → Nat
  | [] => 0
  | (key, value) :: rest => max (max key.depth value.depth) (depthOfEntries rest)

end

/-- Neighbours in pairs. -/
def neighbours : List Data → List (Data × Data)
  | k :: v :: rest => (k, v) :: neighbours rest
  | _ => []

/-- What the entries of a mapping say, given what each node below it says; `depth` is theirs. -/
def entriesSaid (depth : Nat) (said : Node → Except Fault Data) (entries : List (Node × Node)) :
    Except Fault (List (Data × Data)) := do
  let entries ← (entriesOf entries).mapError (⟨depth, ·⟩)
  let parts ← gather <| entries.flatMap fun (key, value) =>
    let key := do
      let key ← said key
      if isKey key then return key else throw ⟨depth, .malformed⟩
    [key, said value]
  return Data.collect (neighbours parts)

/-- What a sequence of mappings with one entry each says, in pairs. -/
def pairsSaid (depth : Nat) (said : Node → Except Fault Data) (items : List Node) :
    Except Fault (List (Data × Data)) := do
  let parts ← gather <| items.flatMap fun
    | .mapping _ [(key, value)] => [said key, said value]
    | _ => [.error ⟨depth, .malformed⟩]
  return neighbours parts

/-- What a node at a depth says; `fuel` is above the depth of the node itself. -/
def dataOf (depth : Nat) (node : Node) : Nat → Except Fault Data
  | 0 => .error ⟨depth, .malformed⟩
  | fuel + 1 =>
    let said (below : Node) : Except Fault Data := dataOf (depth + 1) below fuel
    match node.tag, node with
    | _, .again up isList => return .again up isList
    | .sequence, .sequence _ items => (gather (items.map said)).map .list
    | .pairs, .sequence _ items => do
      return .list ((← pairsSaid (depth + 1) said items).map fun (k, v) => .tuple [k, v])
    | .mapping, .mapping _ entries => return .mapping (← entriesSaid (depth + 1) said entries)
    | .set, .mapping _ entries =>
      return .set ((← entriesSaid (depth + 1) said entries).map (·.1))
    | .sequence, _ | .pairs, _ | .mapping, _ | .set, _ => .error ⟨depth + 1, .malformed⟩
    | .moment, .mapping _ entries =>
      .error ⟨depth, if (standInText? entries).isSome then .spreadDate else .malformed⟩
    | tag, _ =>
      match node.scalarText? with
      | some text => (scalarData tag text).mapError (⟨depth, ·⟩)
      | none => .error ⟨depth, .malformed⟩

/-- What a document says; null if it says nothing. -/
def read (source : Source) : Except Refusal Data := do
  match ← compose source with
  | none => return .null
  | some root => (dataOf 0 root (root.depth + 1)).mapError Fault.refusal

end SnippetRunner.Document.Yaml
