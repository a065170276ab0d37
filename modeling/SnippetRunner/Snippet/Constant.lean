import SnippetRunner.Snippet.Tree

/-!
# Constant expressions

An expression is constant if it writes out a value: numbers with a sign, complex numbers as sums,
texts, and collections of constants. Members of a set and keys of a mapping have to be values that
do not change.
-/

namespace SnippetRunner.Snippet

/-- Why an expression is no constant. -/
inductive ConstantFault where
  /-- Something that is no constant, on a line; without a line it is a mapping that is spread. -/
  | malformed (line : Option Nat)
  /-- A value of a kind that may change where one is wanted that may not. -/
  | changing (kind : String)
  deriving Repr, DecidableEq

/-- What is complained about an expression that is no constant. -/
def ConstantFault.message : ConstantFault → String
  | .malformed (some line) => s!"malformed node or string on line {line}"
  | .malformed none => "malformed node or string: None"
  | .changing kind => s!"unhashable type: '{kind}'"

/-- Whether a literal is a number, and if so whether it is imaginary. -/
def Literal.number? (value : Literal) : Option Bool :=
  match value with
  | .int _ | .float _ => some false
  | .imaginary _ => some true
  | _ => Option.none

namespace Expr

/-- The fault of an expression that is no constant. -/
def notConstant : Expr → ConstantFault
  | .mk span _ => .malformed (some span.line)

/-- Whether an expression is an imaginary number; it has to be a number. -/
def unsigned : Expr → Except ConstantFault Bool
  | .mk span (.literal value) => match value.number? with
    | some imaginary => .ok imaginary
    | none => .error (.malformed (some span.line))
  | e => .error e.notConstant

/-- Whether an expression is an imaginary number; it has to be a number, perhaps with a sign. -/
def withSign : Expr → Except ConstantFault Bool
  | .mk _ (.unary .plus e) | .mk _ (.unary .minus e) => e.unsigned
  | e => e.unsigned

/-- The kind of changing value that a constant is or has among its members. -/
def changingKind? : Expr → Option String
  | .mk _ (.list _) => some "list"
  | .mk _ (.set _) => some "set"
  | .mk _ (.mapping _) => some "dict"
  | .mk _ (.call _ _) => some "set"
  | .mk _ (.tuple items) => items.attach.findSome? fun ⟨e, _⟩ => e.changingKind?
  | _ => none

/-- Checks that a constant does not change. -/
def checkUnchanging (e : Expr) : Except ConstantFault Unit :=
  match e.changingKind? with
  | some kind => .error (.changing kind)
  | none => .ok ()

mutual

/-- Checks that an expression is constant. -/
def checkConstant : Expr → Except ConstantFault Unit
  | .mk span node => match node with
    | .literal _ => .ok ()
    | .tuple items | .list items => checkConstants items
    | .set items => checkMembers items
    | .mapping entries => checkEntries entries
    | .call (.mk _ (.name "set")) [] => .ok ()
    | .unary .plus e | .unary .minus e => do let _ ← e.unsigned
    | .binary op left right => do
      if op = .add ∨ op = .sub then
        let first ← left.withSign
        let second ← right.unsigned
        if ! first && second then return ()
      throw (.malformed (some span.line))
    | _ => .error (.malformed (some span.line))

/-- Checks that expressions are constant. -/
def checkConstants : List Expr → Except ConstantFault Unit
  | [] => .ok ()
  | e :: rest => do
    checkConstant e
    checkConstants rest

/-- Checks that the members of a set are constant. -/
def checkMembers : List Expr → Except ConstantFault Unit
  | [] => .ok ()
  | e :: rest => do
    checkConstant e
    e.checkUnchanging
    checkMembers rest

/-- Checks that the entries of a mapping are constant. -/
def checkEntries : List (Option Expr × Expr) → Except ConstantFault Unit
  | [] => .ok ()
  | (none, _) :: _ => .error (.malformed none)
  | (some key, value) :: rest => do
    checkConstant key
    checkConstant value
    key.checkUnchanging
    checkEntries rest

end

end Expr

end SnippetRunner.Snippet
