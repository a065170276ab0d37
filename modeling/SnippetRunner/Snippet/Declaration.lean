import SnippetRunner.Snippet.Scope

/-!
# Rules of declaration

What a program must keep about its names: no parameter twice, no declaration after a use, no outer
name that is nowhere bound, and names of a whole module only outside functions and classes. A
refusal of this kind gives a line but shows no text.
-/

namespace SnippetRunner.Snippet

/-- A refusal at a place. -/
def refuseAt (span : Span) (message : String) : Refusal :=
  { message, line := span.line, offset := span.column + 1, text := none
    endLine := span.endLine, endOffset := span.endColumn + 1 }

/-- What is known of a name when it is declared to be elsewhere. -/
inductive EarlierUse where
  | parameter
  | used
  | hinted
  | assigned

/-- What is known of the names of a block so far. -/
structure KnownNames where
  kind : ScopeKind
  /-- The kind of the nearest block around that is no comprehension, for a comprehension. -/
  owner : ScopeKind := .module
  /-- The names that the clauses of this and the comprehensions around go through. -/
  iterated : List String := []
  /-- The names that expressions of this comprehension assign to. -/
  through : List String := []
  parameters : List String := []
  used : List String := []
  hinted : List String := []
  bound : List String := []
  globals : List String := []
  nonlocals : List String := []

/-- What is known of a name in a block. -/
def KnownNames.use? (known : KnownNames) (id : String) : Option EarlierUse :=
  if known.parameters.contains id then some .parameter
  else if known.used.contains id then some .used
  else if known.hinted.contains id then some .hinted
  else if known.bound.contains id then some .assigned
  else none

/-- The complaint about a name with a type hint that is declared to be elsewhere. -/
def hintedFault (word id : String) : String := s!"annotated name '{id}' can't be {word}"

/-- The complaint about a declaration that comes too late; `word` is how it is written. -/
def lateDeclaration (word id : String) : EarlierUse → String
  | .parameter => s!"name '{id}' is parameter and {word}"
  | .used => s!"name '{id}' is used prior to {word} declaration"
  | .hinted => hintedFault word id
  | .assigned => s!"name '{id}' is assigned to before {word} declaration"

/-- What is known at the start of a block inside another one. -/
def KnownNames.inside (known : KnownNames) (kind : ScopeKind) (parameters : List String) :
    KnownNames :=
  { kind, parameters
    owner := if known.kind == .comprehension then known.owner else known.kind
    iterated :=
      if kind == .comprehension && known.kind == .comprehension then known.iterated else [] }

/-- What is wrong with an assignment inside an expression, which in a comprehension binds a name in
the block around. -/
def throughFault? (known : KnownNames) (id : String) : Option String :=
  if known.kind != .comprehension then none
  else if known.iterated.contains id then
    some s!"assignment expression cannot rebind comprehension iteration variable '{id}'"
  else if known.owner == .class_ then
    some "assignment expression within a comprehension cannot be used in a class body"
  else none

/-- The first parameter that occurs a second time. -/
def repeatedParameter? : List (String × Span) → Option (String × Span)
  | [] => none
  | (id, _) :: rest =>
    match rest.find? (·.1 == id) with
    | some again => some again
    | none => repeatedParameter? rest

/-- Checks declarations against what comes before them, in a block and those inside it. -/
def checkDeclarations (known : KnownNames) : List Mention → Except Refusal Unit
  | [] => .ok ()
  | m :: rest =>
    match m with
    | .use id => checkDeclarations { known with used := id :: known.used } rest
    | .bind id => checkDeclarations { known with bound := id :: known.bound } rest
    | .iterate id span =>
      if known.through.contains id then
        .error (refuseAt span
          s!"comprehension inner loop cannot rebind assignment expression target '{id}'")
      else checkDeclarations { known with iterated := id :: known.iterated } rest
    | .bindThrough id span =>
      match throughFault? known id with
      | some complaint => .error (refuseAt span complaint)
      | none =>
        checkDeclarations
          { known with bound := id :: known.bound, through := id :: known.through } rest
    | .hinted id span =>
      if known.kind != .module && known.globals.contains id then
        .error (refuseAt span (hintedFault "global" id))
      else if known.kind != .module && known.nonlocals.contains id then
        .error (refuseAt span (hintedFault "nonlocal" id))
      else checkDeclarations { known with hinted := id :: known.hinted } rest
    | .declareGlobal id span =>
      match known.use? id with
      | some earlier => .error (refuseAt span (lateDeclaration "global" id earlier))
      | none => checkDeclarations { known with globals := id :: known.globals } rest
    | .declareNonlocal id span =>
      match known.use? id with
      | some earlier => .error (refuseAt span (lateDeclaration "nonlocal" id earlier))
      | none => checkDeclarations { known with nonlocals := id :: known.nonlocals } rest
    | .importAll span =>
      if known.kind == .module then checkDeclarations known rest
      else .error (refuseAt span "import * only allowed at module level")
    | .imported _ | .yield _ | .await _ | .waits => checkDeclarations known rest
    | .misplaced complaint span => .error (refuseAt span complaint)
    | .inner kind ps ms =>
      match repeatedParameter? ps with
      | some (id, span) =>
        .error (refuseAt span s!"duplicate argument '{id}' in function definition")
      | none =>
        match checkDeclarations (known.inside kind (ps.map (·.1))) ms with
        | .error refusal => .error refusal
        | .ok () =>
          let exported :=
            if kind == .comprehension && known.kind == .function then exportedNames ms else []
          checkDeclarations { known with bound := exported ++ known.bound } rest

/-- The first declaration of a name among the mentions of a block. -/
def declaration? (id : String) : List Mention → Option Span
  | [] => none
  | .declareGlobal other span :: rest => if other == id then some span else declaration? id rest
  | .declareNonlocal other span :: rest => if other == id then some span else declaration? id rest
  | _ :: rest => declaration? id rest

/-- What is wrong with a name of a block that is declared to belong to a function around. -/
def outerFault? (kind : ScopeKind) (outer : List String) (names : Names) (id : String) :
    Option String :=
  if names.globals.contains id then some s!"name '{id}' is nonlocal and global"
  else if kind == .module then some "nonlocal declaration not allowed at module level"
  else if outer.contains id then none
  else some s!"no binding for nonlocal '{id}' found"

/-- Checks the names that a block declares to belong to a function around. A complaint is about
the first declaration of the name. -/
def checkOwnNames (kind : ScopeKind) (outer : List String) (names : Names) (ms : List Mention) :
    Except Refusal Unit :=
  match names.nonlocals.findSome? fun id => (outerFault? kind outer names id).map (id, ·) with
  | some (id, message) => .error (refuseAt ((declaration? id ms).getD default) message)
  | none => .ok ()

mutual

/-- Checks the names declared to belong to a function around, in a block and then in those inside
it; `outer` holds the names of the functions around a block of the given kind. -/
def checkOuterNames (kind : ScopeKind) (outer : List String) (names : Names)
    (ms : List Mention) : Except Refusal Unit :=
  match checkOwnNames kind outer names ms with
  | .error refusal => .error refusal
  | .ok () =>
    checkInnerNames
      (if kind == .module || kind == .class_ then outer else outer ++ names.locals) ms

/-- Checks the blocks among mentions. -/
def checkInnerNames (outer : List String) : List Mention → Except Refusal Unit
  | [] => .ok ()
  | m :: rest =>
    match m with
    | .inner kind ps ms =>
      match checkOuterNames kind outer (Names.of kind (ps.map (·.1)) ms) ms with
      | .error refusal => .error refusal
      | .ok () => checkInnerNames outer rest
    | _ => checkInnerNames outer rest

end

end SnippetRunner.Snippet
