import SnippetRunner.Evaluation.ExpressionStep

/-!
# Choosing a case

How a value is compared with the patterns of a `match`. A pattern comes to nothing if the value
does not fit it, and else to a row of the names that it binds with their values; the names are bound
once the whole pattern fits.
-/

namespace SnippetRunner.Evaluation

open SnippetRunner.Snippet

/-- A name with its value. -/
def bindingOf (id : String) (v : Value) : Value := .tuple [.text id, v]

/-- What a pattern comes to that a value fits. -/
def fitting (bound : List Value) : Value := .tuple bound

/-- The value of a literal that there is only once. -/
def onlyValue : Literal → Value
  | .bool b => .bool b
  | _ => .none

/-- A pattern that binds a name to anything. -/
def capturing (span : Span) (id : String) : Pattern := .mk span (.capture (some id))

/-- How many of the patterns for a sequence look at one item each, and how many of them stand before
the one that takes the others, if there is one. -/
def partCount (patterns : List Pattern) : Nat × Option Nat :=
  let before := (patterns.takeWhile fun p => ! p.isRest).length
  if before = patterns.length then (before, none) else (patterns.length - 1, some before)

namespace Machine

/-- Compares values with patterns one after another. -/
def tryParts (m : Machine) (bound : List Value) : List (Pattern × Value) → Machine
  | [] => m.give (fitting bound)
  | (p, v) :: rest => (m.push (.partTried bound rest)).goOn (.fit p v)

/-- Compares the parts of a value with patterns, if it has such parts. -/
def tryPartsOf (m : Machine) (patterns : List Pattern) : Value → Machine
  | .tuple parts => m.tryParts [] (patterns.zip parts)
  | _ => m.give .none

/-- Compares a value with patterns of which one suffices. -/
def tryAlternatives (m : Machine) (v : Value) : List Pattern → Machine
  | [] => m.give .none
  | p :: rest => (m.push (.alternativeTried v rest)).goOn (.fit p v)

/-- Compares a value with a sequence of patterns. -/
def trySequence (m : Machine) (v : Value) (patterns : List Pattern) (span : Span) : Machine :=
  let (count, rest) := partCount patterns
  let blank := patterns.all Pattern.isBlank
  let skips := patterns.any fun p => p.isRest && p.isBlank
  let parts := if skips then patterns.filter fun p => ! p.isRest else patterns
  m.actThen (.matchSequence count rest blank skips) [v] span (.sequenceParts parts)

/-- Compares a mapping with the entries of a pattern. -/
def tryEntries (m : Machine) (v : Value) (entries : List (Expr × Pattern))
    (others : Option String) (span : Span) : Machine :=
  if entries.isEmpty && others.isNone then m.give (fitting [])
  else
    let parts := entries.map (·.2) ++ (others.map (capturing span)).toList
    (m.push (.mappingParts parts)).operate (.matchKeys others.isSome) [v] (entries.map (·.1)) span

/-- The first step of comparing a value with a pattern. -/
def patternStep (m : Machine) (v : Value) (span : Span) : PatternNode → Machine
  | .value e => m.evalThen e (.equalTo v span)
  | .only l => m.give (if identical v (onlyValue l) then fitting [] else .none)
  | .capture id | .rest id => m.give (fitting (id.toList.map (bindingOf · v)))
  | .named p id => (m.push (.nameTried v id)).goOn (.fit p v)
  | .either patterns => m.tryAlternatives v patterns
  | .sequence patterns => m.trySequence v patterns span
  | .mapping entries others =>
    m.actThen (.matchMapping entries.length) [v] span (.mappingKnown v entries others span)
  | .instance_ kind args keywords =>
    (m.push (.instanceParts (args ++ keywords.map (·.2)))).operate
      (.matchInstance args.length (keywords.map (·.1))) [v] [kind] span

/-- Binds the names that a pattern has bound. -/
def bindAll (m : Machine) (bound : List Value) : Machine :=
  let heap := bound.foldl (fun h binding =>
    match binding with
    | .tuple [.text id, v] => h.setName m.here id v
    | _ => h) m.heap
  { m with heap }

/-- Looks for the case of a value. -/
def tryCases (m : Machine) (subject : Value) : List Case → Machine
  | [] => m.done
  | .mk p guard body :: rest =>
    (m.push (.caseTried subject guard body rest p.span)).goOn (.fit p subject)

/-- Goes on with a case that a value fits: its condition has to hold. -/
def enterCase (m : Machine) (subject : Value) (bound : List Value) (guard : Option Expr)
    (body : List Stmt) (rest : List Case) (span : Span) : Machine :=
  let m := m.bindAll bound
  match guard with
  | none => m.run body
  | some test => (m.push (.guarded subject body rest)).test test span

end Machine

end SnippetRunner.Evaluation
