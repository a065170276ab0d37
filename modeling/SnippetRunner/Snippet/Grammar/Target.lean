import SnippetRunner.Snippet.Grammar.Reader

/-!
# Names for expressions in refusals

What an expression is called when it stands where it cannot, and which part of a target is to
blame.
-/

namespace SnippetRunner.Snippet

/-- What an expression is called in a refusal. -/
def Expr.description (e : Expr) : String :=
  match e.node with
  | .attribute _ _ => "attribute"
  | .subscript _ _ => "subscript"
  | .starred _ => "starred"
  | .name _ => "name"
  | .list _ => "list"
  | .tuple _ => "tuple"
  | .lambda _ _ => "lambda"
  | .call _ _ => "function call"
  | .boolean _ _ | .binary _ _ _ | .unary _ _ => "expression"
  | .yield _ | .yieldFrom _ => "yield expression"
  | .await _ => "await expression"
  | .comprehension .generator _ _ _ => "generator expression"
  | .comprehension .list _ _ _ => "list comprehension"
  | .comprehension .set _ _ _ => "set comprehension"
  | .comprehension .mapping _ _ _ => "dict comprehension"
  | .mapping _ => "dict literal"
  | .set _ => "set display"
  | .joined _ => "f-string expression"
  | .literal .none => "None"
  | .literal (.bool b) => if b then "True" else "False"
  | .literal .ellipsis => "ellipsis"
  | .literal _ => "literal"
  | .compare _ _ => "comparison"
  | .conditional _ _ _ => "conditional expression"
  | .assignment _ _ _ => "named expression"
  | .slice _ _ _ => "slice"
  | .quoted _ => "expression"

/-- What a target is wanted for. -/
inductive TargetUse where
  | assign
  | loop
  | delete
  deriving DecidableEq

mutual

/-- The part of an expression that is no target. -/
def invalidTarget? (use : TargetUse) : Expr → Option Expr
  | .mk _ (.list items) => firstInvalid? use items
  | .mk _ (.tuple items) => firstInvalid? use items
  | .mk span (.starred value) =>
    if use = .delete then some (.mk span (.starred value)) else invalidTarget? use value
  | .mk span (.compare first rest) =>
    if use = .loop then
      match rest with
      | (.isIn, _) :: _ => invalidTarget? use first
      | _ => none
    else some (.mk span (.compare first rest))
  | .mk _ (.name _) => none
  | .mk _ (.subscript _ _) => none
  | .mk _ (.attribute _ _) => none
  | e => some e

/-- The first part of several expressions that is no target. -/
def firstInvalid? (use : TargetUse) : List Expr → Option Expr
  | [] => none
  | e :: rest => (invalidTarget? use e).orElse fun _ => firstInvalid? use rest

end

/-- Refuses an expression that is no target; finds nothing if it is one. -/
def refuseTarget {α : Type} (use : TargetUse) (e : Expr) : Reader α :=
  match invalidTarget? use e with
  | none => Reader.absent
  | some bad =>
    let verb := if use = .delete then "delete" else "assign to"
    Reader.refuseSpan bad.span s!"cannot {verb} {bad.description}"

end SnippetRunner.Snippet
