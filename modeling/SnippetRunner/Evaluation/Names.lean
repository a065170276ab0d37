import SnippetRunner.Evaluation.Kind

/-!
# Names at run time

Where a name is found from a block: among the block's own names, in a function around it, among
the names of the program, or among the known ones.
-/

namespace SnippetRunner.Evaluation

open SnippetRunner.Snippet

/-- Where a name of a block belongs. -/
inductive Place where
  /-- To the block itself. -/
  | own (scope : Nat)
  /-- To a class that is being made: there first, and elsewhere if it is not there. -/
  | inClass (scope : Nat) (beyond : Option Nat)
  /-- To a function around. -/
  | outer (scope : Nat)
  | global
  deriving Repr, DecidableEq

/-- A member's name as the body of a class knows it: one that begins with two underlines, and does
not end with two, has the name of the class before it. -/
def privateName (owner : Option String) (id : String) : String :=
  match owner with
  | none => id
  | some name =>
    let stem := name.toList.dropWhile (· == '_')
    if id.startsWith "__" && ! id.endsWith "__" && ! stem.isEmpty then
      "_" ++ String.ofList stem ++ id
    else id

/-- Why a name has no value. -/
inductive Unbound where
  | undefined (id : String)
  | unassigned (id : String)
  | unassignedOuter (id : String)
  deriving Repr, DecidableEq

/-- The error for a name without a value. -/
def Unbound.problem : Unbound → Problem
  | .undefined id => ⟨"NameError", s!"name '{id}' is not defined"⟩
  | .unassigned id =>
    ⟨"UnboundLocalError",
      s!"cannot access local variable '{id}' where it is not associated with a value"⟩
  | .unassignedOuter id =>
    ⟨"NameError", s!"cannot access free variable '{id}' where it is not associated with a value "
      ++ "in enclosing scope"⟩

/-- What the error for a name without a value tells about it. -/
def Unbound.details : Unbound → Table
  | .undefined id | .unassignedOuter id => [("name", .text id)]
  | .unassigned _ => []

namespace Heap

/-- The scope at an address. -/
def scope? (h : Heap) (address : Nat) : Option Scope :=
  match h.get? address with
  | some (.scope s) => some s
  | _ => none

/-- The nearest function, from a scope outwards, that a name belongs to; `fuel` bounds how many
are searched. -/
def outerScope? (h : Heap) (id : String) : Nat → Option Nat → Option Nat
  | 0, _ => none
  | _ + 1, none => none
  | fuel + 1, some address =>
    match h.scope? address with
    | none => none
    | some s =>
      if s.names.locals.contains id then some address else h.outerScope? id fuel s.parent

/-- Where a name belongs in a block. -/
def placeOf (h : Heap) (here : Activation) (written : String) : Place :=
  let id := privateName here.owner written
  match here.scope with
  | none => .global
  | some address =>
    match h.scope? address with
    | none => .global
    | some s =>
      if s.names.globals.contains id then .global
      else
        let beyond := h.outerScope? id 100 s.parent
        if s.kind == .class_ && ! s.names.nonlocals.contains id then .inClass address beyond
        else if s.names.locals.contains id then .own address
        else match beyond with
          | some outer => .outer outer
          | none => .global

/-- The value of a name in a scope. -/
def inScope? (h : Heap) (address : Nat) (id : String) : Option Value :=
  (h.scope? address).bind fun s => s.table.get? id

/-- Where the known names of a program are; `fallback` is where they are if the program does not
tell. -/
def knownAt (h : Heap) (globals fallback : Nat) : Nat :=
  match (h.names globals).get? "__builtins__" with
  | some (.ref address) => address
  | _ => fallback

/-- The value of a name among those at an address. -/
def named? (h : Heap) (address : Nat) (id : String) : Option Value :=
  match h.get? address with
  | some (.names table) => table.get? id
  | some (.mapping entries) => entries.text? id
  | _ => none

/-- The value of a name of the program, or of a known name. -/
def global (h : Heap) (here : Activation) (id : String) : Except Unbound Value :=
  match (h.named? here.globals id).orElse fun _ => h.named? here.known id with
  | some v => .ok v
  | none => .error (.undefined id)

/-- The value of a name of a function around. -/
def outer (h : Heap) (address : Nat) (id : String) : Except Unbound Value :=
  match h.inScope? address id with
  | some v => .ok v
  | none => .error (.unassignedOuter id)

/-- The value of a name. -/
def lookup (h : Heap) (here : Activation) (written : String) : Except Unbound Value :=
  let id := privateName here.owner written
  match h.placeOf here written with
  | .own address =>
    match h.inScope? address id with
    | some v => .ok v
    | none => .error (.unassigned id)
  | .outer address => h.outer address id
  | .inClass address beyond =>
    match h.inScope? address id with
    | some v => .ok v
    | none =>
      match beyond with
      | some outer => h.outer outer id
      | none => h.global here id
  | .global => h.global here id

/-- Changes the names of a scope. -/
def mapScope (h : Heap) (address : Nat) (f : Table → Table) : Heap :=
  { h with objects := h.objects.modify address fun
      | .scope s => .scope { s with table := f s.table }
      | o => o }

/-- Changes the names to which a name belongs. -/
def mapPlace (h : Heap) (here : Activation) (id : String) (f : Table → Table) : Heap :=
  match h.placeOf here id with
  | .own address => h.mapScope address f
  | .outer address => h.mapScope address f
  | .inClass address _ => h.mapScope address f
  | .global => h.mapNames here.globals f

/-- Sets a name. -/
def setName (h : Heap) (here : Activation) (id : String) (v : Value) : Heap :=
  h.mapPlace here id (·.put (privateName here.owner id) v)

/-- Deletes a name; one without a value is refused. -/
def deleteName (h : Heap) (here : Activation) (written : String) : Except Unbound Heap :=
  let id := privateName here.owner written
  let check (table : Table) (unbound : Unbound) : Except Unbound Heap :=
    if table.has id then .ok (h.mapPlace here written (·.erase id)) else .error unbound
  let tableOf (address : Nat) : Table := ((h.scope? address).map (·.table)).getD []
  match h.placeOf here written with
  | .own address => check (tableOf address) (.unassigned id)
  | .outer address => check (tableOf address) (.unassignedOuter id)
  | .inClass address _ => check (tableOf address) (.undefined id)
  | .global => check (h.names here.globals) (.undefined id)

/-- The scope that functions defined in a block see around them. -/
def closureOf (h : Heap) (here : Activation) : Option Nat :=
  here.scope.bind fun address =>
    match h.scope? address with
    | some s => if s.kind == .class_ then s.parent else some address
    | none => none

end Heap

end SnippetRunner.Evaluation
