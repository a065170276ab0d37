import SnippetRunner.Data
import SnippetRunner.Snippet.Declaration

/-!
# Rules of placement

What a program must keep beyond its grammar and its names: `return`, `yield` and `await` belong
into functions, `break` and `continue` into loops, a starred expression into a display or a call,
a call has every named argument once, one name stands for a constant, and blocks are not nested too
deeply. A refusal of this kind gives a line but shows no text.
-/

namespace SnippetRunner.Snippet

/-- Where something stands. -/
structure Surroundings where
  function : Bool := false
  /-- Whether the function around may wait. -/
  awaits : Bool := false
  /-- Whether the function around hands out values. -/
  yields : Bool := false
  loop : Bool := false
  /-- The comprehension around, if it stands inside one. -/
  comprehension : Option ComprehensionKind := none
  /-- How many blocks around it have something to do at their end. -/
  blocks : Nat := 0
  /-- Whether it stands in a handler that takes errors out of groups. -/
  groupHandler : Bool := false
  /-- Whether such a handler is nearer than any loop. -/
  handlerFirst : Bool := false
  /-- The line of the last of the requests for later rules at the start of the program. -/
  lastRequest : Nat := 0

/-- The inside of a function that may wait or not, with what it mentions. -/
def Surroundings.ofFunction (place : Surroundings) (awaits : Bool) (ms : List Mention) :
    Surroundings :=
  { function := true, awaits, yields := suspends ms, lastRequest := place.lastRequest }

/-- The inside of a class. -/
def Surroundings.ofClass (place : Surroundings) : Surroundings :=
  { lastRequest := place.lastRequest }

/-- How many blocks with something to do at their end may be nested. -/
def blockLimit : Nat := 20

/-- The inside of a loop. -/
def Surroundings.inLoop (place : Surroundings) : Surroundings :=
  { place with loop := true, handlerFirst := false }

/-- The inside of a handler that takes errors out of groups. -/
def Surroundings.inGroupHandler (place : Surroundings) : Surroundings :=
  { place with groupHandler := true, handlerFirst := true }

/-- Whether something may wait that is not written in a comprehension. -/
def Surroundings.mayWait (place : Surroundings) : Bool := place.function && place.awaits

/-- The inside of a block with something to do at its end. -/
def Surroundings.inBlock (place : Surroundings) (span : Span) : Except Refusal Surroundings :=
  if blockLimit ≤ place.blocks then .error (refuseAt span "too many statically nested blocks")
  else .ok { place with blocks := place.blocks + 1 }

/-- Refuses that the constant's name is bound. -/
def checkName (span : Span) (id : String) : Except Refusal Unit :=
  if id == constantName then .error (refuseAt span s!"cannot assign to {id}") else .ok ()

/-- Refuses that the constant's name is deleted. -/
def checkDeleted : Expr → Except Refusal Unit
  | .mk span (.name id) =>
    if id == constantName then .error (refuseAt span s!"cannot delete {id}") else .ok ()
  | _ => .ok ()

/-- How a comprehension is called. -/
def ComprehensionKind.phrase : ComprehensionKind → String
  | .list => "list comprehension"
  | .set => "set comprehension"
  | .mapping => "dict comprehension"
  | .generator => "generator expression"

/-- The complaint about a value that is handed out where nothing can take it. -/
def yieldFault? (place : Surroundings) : Option String :=
  match place.comprehension with
  | some kind => some s!"'yield' inside {kind.phrase}"
  | none => if place.function then none else some "'yield' outside function"

/-- Refuses named arguments that occur twice, and the constant's name as that of one, in a call at a
place. -/
def checkKeywords (span : Span) : List Argument → Except Refusal Unit
  | [] => .ok ()
  | .keyword _ id _ :: rest => do
    checkName span id
    let again := rest.findSome? fun
      | .keyword place other _ => if other == id then some place else none
      | _ => none
    match again with
    | some place => .error (refuseAt place s!"keyword argument repeated: {id}")
    | none => checkKeywords span rest
  | _ :: rest => checkKeywords span rest

/-- Refuses the constant's name as that of a parameter of a function at a place. -/
def checkParameterNames (span : Span) (params : Parameters) : Except Refusal Unit :=
  (params.positionalOnly ++ params.regular ++ params.rest.toList ++ params.keywordOnly
    ++ params.keywords.toList).forM fun p => checkName span p.id

/-- Whether an expression has a star. -/
def Expr.isStarred : Expr → Bool
  | .mk _ (.starred _) => true
  | _ => false

/-- How many targets may stand before one with a star. -/
def beforeStarLimit : Nat := 255

/-- Refuses targets of which more than one has a star, or one with too many before it. -/
def checkStars (span : Span) (targets : List Expr) : Except Refusal Unit :=
  let before := (targets.takeWhile fun e => ! e.isStarred).length
  if before < targets.length && beforeStarLimit < before then
    .error (refuseAt span "too many expressions in star-unpacking assignment")
  else if 1 < (targets.filter Expr.isStarred).length then
    .error (refuseAt span "multiple starred expressions in assignment")
  else .ok ()

/-- The complaint about waiting where nothing can wait. -/
def awaitFault? (place : Surroundings) : Option String :=
  if place.comprehension.isSome || place.mayWait then none
  else if place.function then some "'await' outside async function"
  else some "'await' outside function"

/-- The complaint about a comprehension that has to wait, with what it mentions. -/
def comprehensionFault? (place : Surroundings) (kind : ComprehensionKind) (ms : List Mention) :
    Option String :=
  if awaitsAmong ms && kind != .generator && ! place.mayWait && place.comprehension.isNone then
    some "asynchronous comprehension outside of an asynchronous function"
  else none

/-! ## Expressions -/

mutual

/-- Checks an expression whose value is taken; `star` tells whether it may have a star. -/
def Expr.check (place : Surroundings) (star : Bool) : Expr → Except Refusal Unit
  | .mk span node =>
    match node with
    | .literal _ => .ok ()
    | .name _ => .ok ()
    | .tuple items => checkItems place items
    | .list items => checkItems place items
    | .set items => checkItems place items
    | .mapping entries => checkEntries place entries
    | .attribute value _ => value.check place false
    | .subscript value index => do
      value.check place false
      index.check place false
    | .slice lower upper step => do
      checkOption place lower
      checkOption place upper
      checkOption place step
    | .call function args => do
      checkKeywords span args
      function.check place false
      checkArguments place args
    | .starred value =>
      if star then value.check place false
      else .error (refuseAt span "can't use starred expression here")
    | .unary _ value => value.check place false
    | .binary _ left right => do
      left.check place false
      right.check place false
    | .compare first rest => do
      first.check place false
      checkComparisons place rest
    | .boolean _ values => checkExprs place values
    | .conditional test yes no => do
      test.check place false
      yes.check place false
      no.check place false
    | .lambda params body => do
      checkParameterNames span params
      params.check place
      body.check (place.ofFunction false []) false
    | .comprehension kind item value clauses => do
      let ms := comprehensionMentions (.mk span (.comprehension kind item value clauses))
      match comprehensionFault? place kind ms with
      | some complaint => throw (refuseAt span complaint)
      | none => pure ()
      let inside := { place with comprehension := some kind }
      checkClauses place inside clauses
      item.check inside false
      checkOption inside value
    | .joined pieces => checkPieces place pieces
    | .assignment id idSpan value => do
      value.check place false
      checkName idSpan id
    | .yield value =>
      match yieldFault? place with
      | some complaint => .error (refuseAt span complaint)
      | none => checkOption place value
    | .yieldFrom value =>
      match yieldFault? place with
      | some complaint => .error (refuseAt span complaint)
      | none =>
        if place.mayWait then .error (refuseAt span "'yield from' inside async function")
        else value.check place false
    | .await value =>
      match awaitFault? place with
      | some complaint => .error (refuseAt span complaint)
      | none => value.check place false
    | .quoted _ => .ok ()

/-- Checks the items of a display, which may have stars. -/
def checkItems (place : Surroundings) : List Expr → Except Refusal Unit
  | [] => .ok ()
  | e :: rest => do
    e.check place true
    checkItems place rest

/-- Checks expressions in a row. -/
def checkExprs (place : Surroundings) : List Expr → Except Refusal Unit
  | [] => .ok ()
  | e :: rest => do
    e.check place false
    checkExprs place rest

/-- Checks an expression that may be left out. -/
def checkOption (place : Surroundings) : Option Expr → Except Refusal Unit
  | none => .ok ()
  | some e => e.check place false

/-- Checks the entries of a mapping. -/
def checkEntries (place : Surroundings) : List (Option Expr × Expr) → Except Refusal Unit
  | [] => .ok ()
  | (key, value) :: rest => do
    checkOption place key
    value.check place false
    checkEntries place rest

/-- Checks the arguments of a call. -/
def checkArguments (place : Surroundings) : List Argument → Except Refusal Unit
  | [] => .ok ()
  | .positional e :: rest => do
    e.check place false
    checkArguments place rest
  | .spread e :: rest => do
    e.check place false
    checkArguments place rest
  | .keyword _ _ e :: rest => do
    e.check place false
    checkArguments place rest
  | .spreadKeywords e :: rest => do
    e.check place false
    checkArguments place rest

/-- Checks the right-hand sides of comparisons. -/
def checkComparisons (place : Surroundings) : List (CompareOp × Expr) → Except Refusal Unit
  | [] => .ok ()
  | (_, e) :: rest => do
    e.check place false
    checkComparisons place rest

/-- Checks the clauses of a comprehension; what the first one goes through stands `outside`. -/
def checkClauses (outside inside : Surroundings) : List Clause → Except Refusal Unit
  | [] => .ok ()
  | .mk _ target iterable conditions :: rest => do
    iterable.check outside false
    target.checkTarget inside false
    checkExprs inside conditions
    checkClauses inside inside rest

/-- Checks the values embedded in a text. -/
def checkPieces (place : Surroundings) : List Piece → Except Refusal Unit
  | [] => .ok ()
  | .text _ :: rest => checkPieces place rest
  | .value e _ format :: rest => do
    e.check place false
    checkPieces place format
    checkPieces place rest

/-- Checks the default values of parameters. -/
def Parameters.check (place : Surroundings) : Parameters → Except Refusal Unit
  | .mk positionalOnly regular _ keywordOnly _ => do
    checkParameters place positionalOnly
    checkParameters place regular
    checkParameters place keywordOnly

/-- Checks parameters in a row. -/
def checkParameters (place : Surroundings) : List Parameter → Except Refusal Unit
  | [] => .ok ()
  | .mk _ _ _ value :: rest => do
    checkOption place value
    checkParameters place rest

/-- Checks an expression that is assigned to; `star` tells whether it may have a star. -/
def Expr.checkTarget (place : Surroundings) (star : Bool) : Expr → Except Refusal Unit
  | .mk span node =>
    match node with
    | .tuple items => do
      checkStars span items
      checkTargets place items
    | .list items => do
      checkStars span items
      checkTargets place items
    | .starred value =>
      if star then value.checkTarget place false
      else .error (refuseAt span "starred assignment target must be in a list or tuple")
    | .attribute value name => do
      value.check place false
      checkName span name
    | .subscript value index => do
      value.check place false
      index.check place false
    | .name id => checkName span id
    | _ => .ok ()

/-- Checks targets in a row. -/
def checkTargets (place : Surroundings) : List Expr → Except Refusal Unit
  | [] => .ok ()
  | e :: rest => do
    e.checkTarget place true
    checkTargets place rest

end

/-! ## Requests for later rules -/

/-- The module that stands for rules of later versions of the language. -/
def laterRules : String := "__future__"

/-- The rules that can be asked for by name. -/
def knownRules : List String :=
  ["nested_scopes", "generators", "division", "absolute_import", "with_statement",
    "print_function", "unicode_literals", "barry_as_FLUFL", "generator_stop", "annotations"]

/-- What is wrong with rules that are asked for. -/
def requestFault? (names : List Alias) : Option String :=
  names.findSome? fun a =>
    if knownRules.contains a.name then none
    else if a.name == "braces" then some "not a chance"
    else some s!"future feature {a.name} is not defined"

/-- The line of the last of the requests at the start of a program, which may begin with a
text. -/
def lastRequestOf (line : Nat) : List Stmt → Except Refusal Nat
  | .mk span (.importFrom module names _) :: rest =>
    if module != laterRules then .ok line
    else match requestFault? names with
      | some complaint => .error (refuseAt span complaint)
      | none => lastRequestOf span.line rest
  | _ => .ok line

/-- A program without the text that it may begin with. -/
def withoutTitle : List Stmt → List Stmt
  | .mk _ (.expression (.mk _ (.literal (.text _)))) :: rest => rest
  | program => program

/-! ## Patterns -/

/-- The complaint about a name that a pattern binds a second time. -/
def repeatedBinding (id : String) : String := s!"multiple assignments to name '{id}' in pattern"

/-- The names that a pattern binds, with one more. -/
def bindOnce (span : Span) (bound : List String) (id : String) :
    Except Refusal (List String) := do
  checkName span id
  if bound.contains id then throw (refuseAt span (repeatedBinding id))
  return bound ++ [id]

/-- The names that a pattern binds, perhaps with one more. -/
def bindOptional (span : Span) (bound : List String) : Option String → Except Refusal (List String)
  | some id => bindOnce span bound id
  | none => .ok bound

/-- Whether an expression says the same whenever it is read: it is written out, or an attribute. -/
def Expr.isFixed : Expr → Bool
  | .mk _ (.literal _) | .mk _ (.attribute _ _) => true
  | .mk _ (.unary .minus (.mk _ (.literal _))) => true
  | .mk _ (.binary .add _ _) | .mk _ (.binary .sub _ _) => true
  | _ => false

/-- A key of a mapping that is written out, and how a complaint shows it. -/
def writtenKey? : Expr → Option (Data × String)
  | .mk _ (.literal l) => shown (literalData l)
  | .mk _ (.unary .minus (.mk _ (.literal l))) => shown ((literalData l).bind negative)
  | _ => none
where
  /-- Data and how it is shown. -/
  shown (d : Option Data) : Option (Data × String) := d.map fun d => (d, d.quoted)
  /-- A number with the other sign. -/
  negative : Data → Option Data
    | .int n => some (.int (-n))
    | .float x => some (.float (-x))
    | _ => none
  /-- A literal as data. -/
  literalData : Literal → Option Data
    | .none => some .null
    | .bool b => some (.bool b)
    | .int n => some (.int n)
    | .float x => some (.float x)
    | .text s => some (.text s)
    | .bytes bs => some (.bytes bs)
    | _ => none

/-- Refuses keys of a mapping's pattern that cannot be looked for, or that occur twice. -/
def checkPatternKeys (span : Span) (seen : List Data) : List (Expr × Pattern) →
    Except Refusal Unit
  | [] => .ok ()
  | (key, _) :: rest =>
    match writtenKey? key with
    | some (d, text) =>
      if seen.any (·.same d) then
        .error (refuseAt span s!"mapping pattern checks duplicate key ({text})")
      else checkPatternKeys span (d :: seen) rest
    | none =>
      if key.isFixed then checkPatternKeys span seen rest
      else .error (refuseAt span
        "mapping pattern keys may only match literals and attribute lookups")

/-- Refuses names of attributes that a pattern asks for twice, and the constant's name. -/
def checkPatternNames : List (String × Pattern) → Except Refusal Unit
  | [] => .ok ()
  | (id, p) :: rest => do
    checkName p.span id
    match rest.find? (·.1 == id) with
    | some (_, again) =>
      throw (refuseAt again.span s!"attribute name repeated in class pattern: {id}")
    | none => checkPatternNames rest

/-- Refuses items of a sequence of which more than one takes the others, or which one that does
stands after too many to take apart. -/
def checkRests (span : Span) (patterns : List Pattern) : Except Refusal Unit :=
  let before := (patterns.takeWhile fun p => ! p.isRest).length
  let rests := patterns.filter Pattern.isRest
  if 1 < rests.length then
    .error (refuseAt span "multiple starred expressions in sequence pattern")
  else if before < patterns.length && beforeStarLimit < before
      && rests.any (! ·.isBlank) then
    .error (refuseAt span "too many expressions in star-unpacking sequence pattern")
  else .ok ()

mutual

/-- Checks a pattern and adds the names that it binds; `last` tells whether it may take anything. -/
def Pattern.check (place : Surroundings) (last : Bool) (bound : List String) :
    Pattern → Except Refusal (List String)
  | .mk span node =>
    match node with
    | .value e =>
      if e.isFixed then do
        e.check place false
        return bound
      else .error (refuseAt span "patterns may only match literals and attribute lookups")
    | .only _ => .ok bound
    | .capture id =>
      if last then bindOptional span bound id
      else
        let what := match id with
          | some id => s!"name capture '{id}'"
          | none => "wildcard"
        .error (refuseAt span s!"{what} makes remaining patterns unreachable")
    | .named pattern id => do
      let bound ← pattern.check place last bound
      bindOnce span bound id
    | .either patterns => do
      let names ← checkAlternatives place last none patterns
      names.foldlM (bindOnce span) bound
    | .sequence patterns => do
      checkRests span patterns
      checkPatterns place bound patterns
    | .rest id => bindOptional span bound id
    | .mapping entries others => do
      checkPatternKeys span [] entries
      let bound ← checkEntryPatterns place bound entries
      bindOptional span bound others
    | .instance_ kind args keywords => do
      checkPatternNames keywords
      kind.check place false
      let bound ← checkPatterns place bound args
      checkNamedPatterns place bound keywords

/-- Checks patterns of which one suffices: only the last one may take anything, and all bind the
same names. -/
def checkAlternatives (place : Surroundings) (last : Bool) (names : Option (List String)) :
    List Pattern → Except Refusal (List String)
  | [] => .ok (names.getD [])
  | p :: rest => do
    let own ← p.check place (last && rest.isEmpty) []
    match names with
    | none => checkAlternatives place last (some own) rest
    | some names =>
      if own.length = names.length && names.all own.contains then
        checkAlternatives place last (some names) rest
      else throw (refuseAt p.span "alternative patterns bind different names")

/-- Checks patterns in a row. -/
def checkPatterns (place : Surroundings) (bound : List String) :
    List Pattern → Except Refusal (List String)
  | [] => .ok bound
  | p :: rest => do
    let bound ← p.check place true bound
    checkPatterns place bound rest

/-- Checks the patterns of a mapping's entries. -/
def checkEntryPatterns (place : Surroundings) (bound : List String) :
    List (Expr × Pattern) → Except Refusal (List String)
  | [] => .ok bound
  | (key, p) :: rest => do
    key.check place false
    let bound ← p.check place true bound
    checkEntryPatterns place bound rest

/-- Checks patterns with names. -/
def checkNamedPatterns (place : Surroundings) (bound : List String) :
    List (String × Pattern) → Except Refusal (List String)
  | [] => .ok bound
  | (_, p) :: rest => do
    let bound ← p.check place true bound
    checkNamedPatterns place bound rest

end

/-! ## Statements -/

/-- Checks the type hints of a function. -/
def checkHints (place : Surroundings) (params : Parameters) (returns : Option Expr) :
    Except Refusal Unit :=
  (hintsOf params returns).forM fun (_, e) => e.check place false

/-- Checks the target of an assignment with an operator; an attribute may have any name. -/
def checkAugmented (place : Surroundings) : Expr → Except Refusal Unit
  | .mk _ (.attribute value _) => value.check place false
  | e => e.checkTarget place false

/-- Checks a target of a deletion. -/
def checkDeletion (place : Surroundings) (target : Expr) : Except Refusal Unit :=
  match target with
  | .mk _ (.name _) => checkDeleted target
  | .mk _ (.attribute value _) => value.check place false
  | .mk _ (.tuple items) | .mk _ (.list items) => items.forM checkDeleted
  | e => e.checkTarget place false

/-- Checks the items of a `with` statement, each inside those before it, and tells where its body
stands. -/
def checkManagers (span : Span) (place : Surroundings) :
    List (Expr × Option Expr) → Except Refusal Surroundings
  | [] => .ok place
  | (manager, target) :: rest => do
    manager.check place false
    let inside ← place.inBlock span
    match target with
    | some e => e.checkTarget place false
    | none => pure ()
    checkManagers span inside rest

/-- The complaint about a statement that would leave a handler of errors in groups. -/
def leavingHandler : String :=
  "'break', 'continue' and 'return' cannot appear in an except* block"

/-- Checks a statement that ends a loop or a round of it. -/
def checkLoopEnd (span : Span) (place : Surroundings) (complaint : String) : Except Refusal Unit :=
  if place.handlerFirst then .error (refuseAt span leavingHandler)
  else if place.loop then .ok ()
  else .error (refuseAt span complaint)

/-- Refuses to wait where nothing can wait. -/
def checkWaiting (span : Span) (place : Surroundings) (complaint : String) : Except Refusal Unit :=
  if place.mayWait then .ok () else .error (refuseAt span complaint)

mutual

/-- Checks a statement and those inside it. -/
def Stmt.check (place : Surroundings) : Stmt → Except Refusal Unit
  | .mk span node =>
    match node with
    | .expression e => e.check place false
    | .assign targets value => do
      value.check place false
      targets.forM (Expr.checkTarget place false)
    | .annotated target hint value _ => do
      checkOption place value
      target.checkTarget place false
      if ! place.function then hint.check place false
    | .augmented target _ value => do
      checkAugmented place target
      value.check place false
    | .raise error cause => do
      checkOption place error
      checkOption place cause
    | .assert test message => do
      test.check place false
      checkOption place message
    | .delete targets => targets.forM (checkDeletion place)
    | .pass | .global _ | .nonlocal _ => .ok ()
    | .import_ names => names.forM fun a => checkName span a.boundName
    | .importFrom module names _ =>
      if module == laterRules && place.lastRequest < span.line then
        .error (refuseAt span
          "from __future__ imports must occur at the beginning of the file")
      else names.forM fun a => checkName span a.memberName
    | .return_ value =>
      if ! place.function then .error (refuseAt span "'return' outside function")
      else if value.isSome && place.awaits && place.yields then
        .error (refuseAt span "'return' with value in async generator")
      else do
        checkOption place value
        if place.groupHandler then throw (refuseAt span leavingHandler)
    | .break_ => checkLoopEnd span place "'break' outside loop"
    | .continue_ => checkLoopEnd span place "'continue' not properly in loop"
    | .if_ test body orElse => do
      test.check place false
      checkStmts place body
      checkStmts place orElse
    | .while_ test body orElse => do
      let inside ← place.inBlock span
      test.check place false
      checkStmts inside.inLoop body
      checkStmts place orElse
    | .for_ target iterable body orElse => do
      let inside ← place.inBlock span
      iterable.check place false
      target.checkTarget place false
      checkStmts inside.inLoop body
      checkStmts place orElse
    | .asyncFor target iterable body orElse => do
      checkWaiting span place "'async for' outside async function"
      let inside ← place.inBlock span
      iterable.check place false
      target.checkTarget place false
      checkStmts inside.inLoop body
      checkStmts place orElse
    | .try_ body handlers orElse final => do
      let outer ← if final.isEmpty then pure place else place.inBlock span
      if handlers.isEmpty then checkStmts outer body
      else
        checkStmts (← outer.inBlock span) body
        checkStmts outer orElse
        checkHandlers (← outer.inBlock span) handlers
      checkStmts place final
      if ! final.isEmpty then checkStmts (← place.inBlock span) final
    | .tryStar body handlers orElse final => do
      let outer ← if final.isEmpty then pure place else place.inBlock span
      checkStmts (← outer.inBlock span) body
      checkHandlers (← outer.inBlock span).inGroupHandler handlers
      checkStmts outer orElse
      checkStmts place final
      if ! final.isEmpty then checkStmts (← place.inBlock span) final
    | .with_ items body => do
      let inside ← checkManagers span place items
      checkStmts inside body
    | .asyncWith items body => do
      checkWaiting span place "'async with' outside async function"
      let inside ← checkManagers span place items
      checkStmts inside body
    | .match_ subject cases => do
      subject.check place false
      checkCases place cases
    | .function awaits name params returns body decorators => do
      checkParameterNames span params
      checkExprs place decorators
      params.check place
      checkHints place params returns
      checkStmts (place.ofFunction awaits (stmtsMentions body)) body
      checkName span name
    | .class_ name args body decorators => do
      checkExprs place decorators
      checkStmts place.ofClass body
      checkKeywords span args
      checkArguments place args
      checkName span name

/-- Checks statements in a row. -/
def checkStmts (place : Surroundings) : List Stmt → Except Refusal Unit
  | [] => .ok ()
  | s :: rest => do
    s.check place
    checkStmts place rest

/-- Checks the handlers of a `try`; one of everything has to be the last one. -/
def checkHandlers (place : Surroundings) : List Handler → Except Refusal Unit
  | [] => .ok ()
  | .mk span kind name body :: rest => do
    if kind.isNone && ! rest.isEmpty then throw (refuseAt span "default 'except:' must be last")
    checkOption place kind
    match name with
    | some id => checkName span id
    | none => pure ()
    checkStmts (← place.inBlock span) body
    checkHandlers place rest

/-- Checks the cases of a `match`; one that takes anything has to be the last one, unless it has a
condition. -/
def checkCases (place : Surroundings) : List Case → Except Refusal Unit
  | [] => .ok ()
  | .mk pattern guard body :: rest => do
    let _ ← pattern.check place (guard.isSome || rest.isEmpty) []
    checkOption place guard
    checkStmts place body
    checkCases place rest

end

/-- Checks a program. -/
def checkProgram (program : List Stmt) : Except Refusal Unit := do
  let lastRequest ← lastRequestOf 0 (withoutTitle program)
  let ms := stmtsMentions program
  checkDeclarations { kind := .module } ms
  checkOuterNames .module [] (Names.of .module [] ms) ms
  checkStmts { lastRequest } program

end SnippetRunner.Snippet
