import SnippetRunner.Snippet.Tree

/-!
# Names and scopes

Which names a block binds, declares and uses, in the order in which they are met, and the rules
that a program must keep beyond its grammar: declarations come before uses, a parameter occurs
once, and statements such as `return` and `break` stand where they mean something.
-/

namespace SnippetRunner.Snippet

/-- Blocks with names of their own. -/
inductive ScopeKind where
  | module
  | function
  | class_
  | comprehension
  deriving Repr, DecidableEq

/-- The name that stands for a constant. -/
def constantName : String := "__debug__"

/-- What a block does with names, one occurrence after another. -/
inductive Mention where
  | use (id : String)
  | bind (id : String)
  /-- A binding by an import, which a later declaration does not contradict. -/
  | imported (id : String)
  /-- A binding with a type hint. -/
  | hinted (id : String) (span : Span)
  /-- A binding by a clause of a comprehension. -/
  | iterate (id : String) (span : Span)
  /-- An assignment inside an expression; in a comprehension it binds in the block around. -/
  | bindThrough (id : String) (span : Span)
  | declareGlobal (id : String) (span : Span)
  | declareNonlocal (id : String) (span : Span)
  /-- An import of all names of a module. -/
  | importAll (span : Span)
  | yield (span : Span)
  | await (span : Span)
  /-- Something that is waited for without the word for it. -/
  | waits
  /-- An expression that cannot stand where it stands. -/
  | misplaced (complaint : String) (span : Span)
  | inner (kind : ScopeKind) (parameters : List (String × Span)) (mentions : List Mention)

/-! ## Collecting mentions -/

/-- The first assignment inside an expression among mentions, in blocks inside as well. -/
def assignmentWithin? : List Mention → Option Span
  | [] => none
  | .bindThrough _ span :: _ => some span
  | .inner _ _ ms :: rest => (assignmentWithin? ms).orElse fun _ => assignmentWithin? rest
  | _ :: rest => assignmentWithin? rest

/-- The mentions of what a comprehension goes through; no assignment can stand there. -/
def sourceMentions (ms : List Mention) : List Mention :=
  match assignmentWithin? ms with
  | some span =>
    [.misplaced "assignment expression cannot be used in a comprehension iterable expression"
      span]
  | none => ms

/-- The mentions of the target of a clause. -/
def iterationMentions (span : Span) (ms : List Mention) : List Mention :=
  ms.map fun
    | .bind id => .iterate id span
    | m => m

/-- The complaint about what cannot stand in a type hint that is kept as a text. -/
def hintFault? : Mention → Option String
  | .bindThrough _ _ => some "'named expression' can not be used within an annotation"
  | .yield _ => some "'yield expression' can not be used within an annotation"
  | .await _ => some "'await expression' can not be used within an annotation"
  | _ => none

/-- The mentions of an expression that stands for its own text: nothing for the names of a block,
but some expressions cannot stand in it. -/
def quotedMentions (span : Span) (ms : List Mention) : List Mention :=
  ms.filterMap fun m =>
    match m, hintFault? m with
    | _, some complaint => some (.misplaced complaint span)
    | .inner kind ps inside, none => some (.inner kind ps inside)
    | .misplaced complaint place, none => some (.misplaced complaint place)
    | _, none => none

/-- Whether a block waits for something. -/
def awaitsAmong (ms : List Mention) : Bool :=
  ms.any fun
    | .await _ | .waits => true
    | _ => false

/-- The mentions of a comprehension for the block around. One that makes its items at once and has
to wait for something makes the block around wait as well. -/
def innerComprehension (kind : ComprehensionKind) (ms : List Mention) : List Mention :=
  .inner .comprehension [] ms ::
    if kind != .generator && awaitsAmong ms then [.waits] else []

mutual

/-- The mentions of an expression; `bound` for one that is assigned to. -/
def Expr.mentions (bound : Bool) : Expr → List Mention
  | .mk span node =>
    match node with
    | .literal _ => []
    | .name id => [if bound then .bind id else .use id]
    | .tuple items => exprsMentions bound items
    | .list items => exprsMentions bound items
    | .set items => exprsMentions false items
    | .mapping entries => entriesMentions entries
    | .attribute value _ => value.mentions false
    | .subscript value index => value.mentions false ++ index.mentions false
    | .slice lower upper step =>
      optionMentions lower ++ optionMentions upper ++ optionMentions step
    | .call function args => function.mentions false ++ argumentsMentions args
    | .starred value => value.mentions bound
    | .unary _ value => value.mentions false
    | .binary _ left right => left.mentions false ++ right.mentions false
    | .compare first rest => first.mentions false ++ comparisonsMentions rest
    | .boolean _ values => exprsMentions false values
    | .conditional test yes no => test.mentions false ++ yes.mentions false ++ no.mentions false
    | .lambda params body =>
      params.defaultMentions ++ [.inner .function params.parameterSpans (body.mentions false)]
    | .comprehension kind item value clauses =>
      match clauses with
      | .mk awaits target iterable conditions :: rest =>
        sourceMentions (iterable.mentions false) ++
          innerComprehension kind ((if awaits then [.waits] else [])
            ++ iterationMentions span (target.mentions true)
            ++ exprsMentions false conditions ++ clausesMentions rest ++ optionMentions value
            ++ item.mentions false)
      | [] => []
    | .joined pieces => piecesMentions pieces
    | .assignment id idSpan value => .bindThrough id idSpan :: value.mentions false
    | .yield value => optionMentions value ++ [.yield span]
    | .yieldFrom value => value.mentions false ++ [.yield span]
    | .await value => .await span :: value.mentions false
    | .quoted value => quotedMentions span (value.mentions false)

/-- The mentions of expressions in a row. -/
def exprsMentions (bound : Bool) : List Expr → List Mention
  | [] => []
  | e :: rest => e.mentions bound ++ exprsMentions bound rest

/-- The mentions of an expression that may be left out. -/
def optionMentions : Option Expr → List Mention
  | none => []
  | some e => e.mentions false

/-- The mentions of the entries of a mapping. -/
def entriesMentions : List (Option Expr × Expr) → List Mention
  | [] => []
  | (key, value) :: rest => optionMentions key ++ value.mentions false ++ entriesMentions rest

/-- The mentions of the arguments of a call. -/
def argumentsMentions : List Argument → List Mention
  | [] => []
  | .positional e :: rest => e.mentions false ++ argumentsMentions rest
  | .spread e :: rest => e.mentions false ++ argumentsMentions rest
  | .keyword _ _ e :: rest => e.mentions false ++ argumentsMentions rest
  | .spreadKeywords e :: rest => e.mentions false ++ argumentsMentions rest

/-- The mentions of the right-hand sides of comparisons. -/
def comparisonsMentions : List (CompareOp × Expr) → List Mention
  | [] => []
  | (_, e) :: rest => e.mentions false ++ comparisonsMentions rest

/-- The mentions of the clauses of a comprehension. -/
def clausesMentions : List Clause → List Mention
  | [] => []
  | .mk awaits target iterable conditions :: rest =>
    (if awaits then [.waits] else []) ++ iterationMentions target.span (target.mentions true)
      ++ sourceMentions (iterable.mentions false) ++ exprsMentions false conditions
      ++ clausesMentions rest

/-- The mentions of the values embedded in a text. -/
def piecesMentions : List Piece → List Mention
  | [] => []
  | .text _ :: rest => piecesMentions rest
  | .value e _ format :: rest => e.mentions false ++ piecesMentions format ++ piecesMentions rest

/-- The names of parameters with their places. -/
def Parameters.parameterSpans : Parameters → List (String × Span)
  | .mk positionalOnly regular rest keywordOnly keywords =>
    (positionalOnly ++ regular ++ keywordOnly ++ rest.toList ++ keywords.toList).map
      fun p => (p.id, p.span)

/-- The mentions of default values, which belong to the block around. -/
def Parameters.defaultMentions : Parameters → List Mention
  | .mk positionalOnly regular _ keywordOnly _ =>
    parametersMentions positionalOnly ++ parametersMentions regular
      ++ parametersMentions keywordOnly

/-- The mentions of the default values of parameters in a row. -/
def parametersMentions : List Parameter → List Mention
  | [] => []
  | .mk _ _ _ default :: rest => optionMentions default ++ parametersMentions rest

end

/-- The mentions of a comprehension as a block of its own, in which the first clause goes through
what is there already. -/
def comprehensionMentions (e : Expr) : List Mention :=
  match (e.mentions false).reverse with
  | .inner _ _ ms :: _ | .waits :: .inner _ _ ms :: _ => ms
  | _ => []

/-- The hints of a function: those of its parameters, by name, and that of its result. -/
def hintsOf (params : Parameters) (returns : Option Expr) : List (String × Expr) :=
  let hinted (p : Parameter) := p.hint.map fun e => (p.id, e)
  match params with
  | .mk positionalOnly regular rest keywordOnly keywords =>
    (regular ++ positionalOnly ++ rest.toList ++ keywordOnly ++ keywords.toList).filterMap hinted
      ++ (returns.map fun e => ("return", e)).toList

/-- The name that an import binds: the one after `as`, or else the first part. -/
def Alias.boundName (a : Alias) : String :=
  a.bound.getD (String.ofList (a.name.toList.takeWhile (· != '.')))

/-- The name that an imported member is bound to. -/
def Alias.memberName (a : Alias) : String := a.bound.getD a.name

/-- The items of a `with` statement in the order of evaluation. -/
def withMentions : List (Expr × Option Expr) → List Mention
  | [] => []
  | (manager, target) :: rest =>
    let bound := match target with
      | some e => e.mentions true
      | none => []
    manager.mentions false ++ bound ++ withMentions rest

mutual

/-- The mentions of a pattern. -/
def Pattern.mentions : Pattern → List Mention
  | .mk _ node =>
    match node with
    | .value e => e.mentions false
    | .only _ => []
    | .capture id | .rest id => id.toList.map .bind
    | .named pattern id => pattern.mentions ++ [.bind id]
    | .either patterns | .sequence patterns => patternsMentions patterns
    | .mapping entries others =>
      entries.flatMap (fun (key, _) => key.mentions false) ++ entriesPatternMentions entries
        ++ others.toList.map .bind
    | .instance_ kind args keywords =>
      kind.mentions false ++ patternsMentions args ++ keywordsPatternMentions keywords

/-- The mentions of patterns in a row. -/
def patternsMentions : List Pattern → List Mention
  | [] => []
  | p :: rest => p.mentions ++ patternsMentions rest

/-- The mentions of the patterns of a mapping's entries. -/
def entriesPatternMentions : List (Expr × Pattern) → List Mention
  | [] => []
  | (_, p) :: rest => p.mentions ++ entriesPatternMentions rest

/-- The mentions of patterns with names. -/
def keywordsPatternMentions : List (String × Pattern) → List Mention
  | [] => []
  | (_, p) :: rest => p.mentions ++ keywordsPatternMentions rest

end

mutual

/-- The mentions of a statement. -/
def Stmt.mentions : Stmt → List Mention
  | .mk span node =>
    match node with
    | .expression e => e.mentions false
    | .assign targets value => value.mentions false ++ exprsMentions true targets
    | .annotated target hint value bare =>
      let bound := match target with
        | .mk _ (.name id) =>
          if bare then [.hinted id span] else if value.isSome then [.bind id] else []
        | _ => target.mentions true
      bound ++ hint.mentions false ++ optionMentions value
    | .augmented target _ value => target.mentions true ++ value.mentions false
    | .return_ value => optionMentions value
    | .raise error cause => optionMentions error ++ optionMentions cause
    | .assert test message => test.mentions false ++ optionMentions message
    | .delete targets => exprsMentions true targets
    | .pass => []
    | .break_ => []
    | .continue_ => []
    | .global names => names.map fun n => .declareGlobal n span
    | .nonlocal names => names.map fun n => .declareNonlocal n span
    | .import_ names => names.map fun a => .imported a.boundName
    | .importFrom _ names _ =>
      names.map fun a => if a.name == "*" then .importAll span else .imported a.memberName
    | .if_ test body orElse => test.mentions false ++ stmtsMentions body ++ stmtsMentions orElse
    | .while_ test body orElse => test.mentions false ++ stmtsMentions body ++ stmtsMentions orElse
    | .for_ target iterable body orElse | .asyncFor target iterable body orElse =>
      target.mentions true ++ iterable.mentions false ++ stmtsMentions body
        ++ stmtsMentions orElse
    | .try_ body handlers orElse final | .tryStar body handlers orElse final =>
      stmtsMentions body ++ stmtsMentions orElse ++ handlersMentions handlers
        ++ stmtsMentions final
    | .with_ items body | .asyncWith items body => withMentions items ++ stmtsMentions body
    | .match_ subject cases => subject.mentions false ++ casesMentions cases
    | .function _ name params returns body decorators =>
      .bind name :: params.defaultMentions
        ++ (hintsOf params returns).flatMap (fun (_, e) => e.mentions false)
        ++ exprsMentions false decorators
        ++ [.inner .function params.parameterSpans (stmtsMentions body)]
    | .class_ name args body decorators =>
      .bind name :: argumentsMentions args ++ exprsMentions false decorators
        ++ [.inner .class_ [] (stmtsMentions body)]

/-- The mentions of statements in a row. -/
def stmtsMentions : List Stmt → List Mention
  | [] => []
  | s :: rest => s.mentions ++ stmtsMentions rest

/-- The mentions of the handlers of a `try`. -/
def handlersMentions : List Handler → List Mention
  | [] => []
  | .mk _ kind name body :: rest =>
    optionMentions kind ++ (name.toList.map .bind) ++ stmtsMentions body ++ handlersMentions rest

/-- The mentions of the cases of a `match`. -/
def casesMentions : List Case → List Mention
  | [] => []
  | .mk pattern guard body :: rest =>
    pattern.mentions ++ optionMentions guard ++ stmtsMentions body ++ casesMentions rest

end

/-! ## Whether a block hints at types -/

mutual

/-- Whether a statement of a block hints at a type of the block's names. -/
def stmtHints : Stmt → Bool
  | .mk _ node =>
    match node with
    | .annotated _ _ _ _ => true
    | .if_ _ body orElse => stmtsHint body || stmtsHint orElse
    | .while_ _ body orElse => stmtsHint body || stmtsHint orElse
    | .for_ _ _ body orElse | .asyncFor _ _ body orElse => stmtsHint body || stmtsHint orElse
    | .with_ _ body | .asyncWith _ body => stmtsHint body
    | .try_ body handlers orElse final | .tryStar body handlers orElse final =>
      stmtsHint body || handlersHint handlers || stmtsHint orElse || stmtsHint final
    | .match_ _ cases => casesHint cases
    | _ => false

/-- Whether one of several statements hints at a type. -/
def stmtsHint : List Stmt → Bool
  | [] => false
  | s :: rest => stmtHints s || stmtsHint rest

/-- Whether a statement in a handler hints at a type. -/
def handlersHint : List Handler → Bool
  | [] => false
  | .mk _ _ _ body :: rest => stmtsHint body || handlersHint rest

/-- Whether a statement in a case hints at a type. -/
def casesHint : List Case → Bool
  | [] => false
  | .mk _ _ body :: rest => stmtsHint body || casesHint rest

end

/-! ## Names of a block -/

/-- The names of a block: those it binds itself, and those it declares to be elsewhere. -/
structure Names where
  locals : List String := []
  globals : List String := []
  nonlocals : List String := []
  /-- The first parameter that a position fills. -/
  first : Option String := none
  deriving Repr, Inhabited

/-- A list with an element at its end, unless it is there already. -/
def withName (names : List String) (id : String) : List String :=
  if names.contains id then names else names ++ [id]

/-- The names that comprehensions bind in the block around them. -/
def exportedNames : List Mention → List String
  | [] => []
  | .bindThrough id _ :: rest => id :: exportedNames rest
  | .inner .comprehension _ ms :: rest => exportedNames ms ++ exportedNames rest
  | _ :: rest => exportedNames rest

/-- Names that a block binds, in order; a comprehension leaves the assignments inside its
expressions to the block around. -/
def boundNames (kind : ScopeKind) (ms : List Mention) : List String :=
  let own := ms.filterMap fun
    | .bind id | .imported id | .iterate id _ | .hinted id _ => some id
    | _ => none
  if kind == .comprehension then own else own ++ exportedNames ms

/-- Names declared global. -/
def globalNames (ms : List Mention) : List String :=
  ms.filterMap fun
    | .declareGlobal id _ => some id
    | _ => none

/-- Names declared to belong to a function around. -/
def nonlocalNames (ms : List Mention) : List String :=
  ms.filterMap fun
    | .declareNonlocal id _ => some id
    | _ => none

/-- The names of a block with parameters. -/
def Names.of (kind : ScopeKind) (parameters : List String) (ms : List Mention) : Names :=
  let globals := globalNames ms
  let nonlocals := nonlocalNames ms
  let bound := (parameters ++ boundNames kind ms).foldl withName []
  { locals := bound.filter fun id => ! globals.contains id && ! nonlocals.contains id
    globals, nonlocals }

/-- The names of a block, each one changed. -/
def Names.mapped (names : Names) (f : String → String) : Names :=
  { locals := names.locals.map f, globals := names.globals.map f
    nonlocals := names.nonlocals.map f }

/-- Whether a block suspends itself. -/
def suspends (ms : List Mention) : Bool :=
  ms.any fun
    | .yield _ => true
    | _ => false

end SnippetRunner.Snippet
