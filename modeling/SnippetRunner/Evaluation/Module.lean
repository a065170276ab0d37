import SnippetRunner.Evaluation.Calling
import SnippetRunner.Evaluation.Conversion
import SnippetRunner.Evaluation.MathFunction
import SnippetRunner.Library
import SnippetRunner.Sandbox.Modules
import SnippetRunner.Search.Reader

/-!
# Loaded modules

A module is an object that is made when it is first imported and stays loaded. What modules of the
library cannot say in the language of snippets is a function behind the library: how arguments
find the fields of a record, and how a text is searched.
-/

namespace SnippetRunner.Evaluation

open SnippetRunner.Search

/-- The functions behind the library, by the modules that know them. -/
def libraryFunctions : List (String × List String) :=
  [("collections", ["_bind"]), ("re", ["_read", "_find"])]

/-- The values that arguments give to fields. The first argument is the class of the record. -/
def bindFields (owner : String) (fields : List String) (standard : Table) (args : List Value)
    (keywords : Table) : Native Value := do
  let signature : Signature :=
    { owner, regular := "_cls" :: fields, optional := standard.map (·.1) }
  let passed ← signature.passOrFail args keywords
  return .tuple (fields.map fun id =>
    ((passed.names.get? id).orElse fun _ => standard.get? id).getD .none)

/-- The named values of a mapping. -/
def namedEntries (v : Value) : Native Table := do
  let h ← Native.heap
  return ((h.mapping? v).map fun m => m.toList.filterMap fun (k, w) =>
    (h.text? k).map fun id => (id, w)).getD []

/-- The characters of a text, or those with the codes of bytes; whether it is a text. -/
def searched? (v : Value) : Native (Option (Subject × Bool)) := do
  match (← Native.heap).core v with
  | .text s => return some (s.toList.toArray, true)
  | .bytes bs => return some ((bs.map fun b => Char.ofNat b.toNat).toArray, false)
  | _ => return none

/-- Reads a form of a search. -/
def compiled (pattern : Value) (options : Nat) : Native (Except Fault Compiled) := do
  match ← searched? pattern with
  | some (text, isText) => return Compiled.read text isText options
  | none => Native.typeError "first argument must be string or compiled pattern"

/-- What is told about a form: its options, the number of its groups, and their names; or a complaint
with its place. -/
def describeForm (pattern : Value) (options : Nat) : Native Value := do
  match ← compiled pattern options with
  | .ok c =>
    let names := c.names.map fun (id, number) => Value.tuple [.text id, .int number]
    return .tuple [.int c.options, .int c.groups, .tuple names]
  | .error (.malformed message place) =>
    return .tuple [.text message, (place.map fun n => Value.int n).getD .none]
  | .error (.other problem) => Native.failProblem problem

/-- What a match has taken: where each group starts and ends, and the group that ended last. -/
def matchValue (groups : Nat) (p : Trail) : Value :=
  let ends (number : Nat) : List Value := match p.group? number with
    | some (start, stop) => [.int start, .int stop]
    | none => [.int (-1), .int (-1)]
  .tuple ((List.range (groups + 1)).flatMap ends
    ++ [(p.last.map fun n => Value.int n).getD .none])

/-- Searches a text between two places: all matches, or the first one within an extent. -/
def findForm (pattern : Value) (options : Nat) (subject : Value) (start stop : Int)
    (extent : Int) (most : Int) : Native Value := do
  let h ← Native.heap
  match ← compiled pattern options, ← searched? pattern, ← searched? subject with
  | .ok c, some (_, isText), some (s, inText) =>
    if isText && !inText then
      Native.typeError "cannot use a string pattern on a bytes-like object"
    if !isText && inText then
      Native.typeError "cannot use a bytes pattern on a string-like object"
    let s := s.extract 0 stop.toNat
    let start := min start.toNat s.size
    if extent = 3 then
      let count := if most ≤ 0 then 2 * s.size + 2 else most.toNat
      match Search.all s c.form count start false with
      | some found => return .tuple (found.map (matchValue c.groups))
      | none => Native.endless
    else
      let extent : Extent :=
        if extent = 0 then .anywhere else if extent = 1 then .atStart else .whole
      match Search.first s c.form extent start with
      | .found p => return .tuple [matchValue c.groups p]
      | .absent => return .tuple []
      | .exhausted => Native.endless
  | _, _, _ => Native.typeError s!"expected string or bytes-like object, got '{h.typeName subject}'"

/-- Calls a function behind the library. -/
def callLibrary (owner name : String) (args : List Value) : Native Value := do
  match owner, name, args with
  | "collections", "_bind", [.text called, .tuple fields, standard, .tuple args, keywords] =>
    let ids := fields.filterMap fun
      | .text id => some id
      | _ => none
    bindFields called ids (← namedEntries standard) args (← namedEntries keywords)
  | "re", "_read", [pattern, .int options] => describeForm pattern options.toNat
  | "re", "_find", [pattern, .int options, subject, .int start, .int stop, .int extent,
      .int most] =>
    findForm pattern options.toNat subject start stop extent most
  | _, _, _ => Native.unavailable name

open SnippetRunner.Sandbox

/-- The members of a module at its start. -/
def moduleMembers (name : String) : Table :=
  let functions (owner : String) (names : List String) : Table :=
    names.map fun function => (function, .builtin (owner ++ "." ++ function))
  ("__name__", .text name) ::
    if name == "math" then mathConstants ++ functions "math" mathFunctions
    else functions name ((libraryFunctions.lookup name).getD [])

/-- The address of a module, which is loaded if it is not yet. -/
def loadOne (name : String) : Native Nat := do
  let h ← Native.heap
  let name := ownName name
  match h.modules.find? (·.1 == name) with
  | some (_, address) => return address
  | none =>
    if let some text := Library.text? name then Native.afterLoading name text
    match ← Native.allocate (.names (moduleMembers name)) with
    | .ref names =>
      match ← Native.allocate (.module name names) with
      | .ref address =>
        Native.modifyHeap fun h => { h with modules := h.modules ++ [(name, address)] }
        return address
      | _ => return 0
    | _ => return 0

/-- Sets a member of a loaded module. -/
def attach (parent : Nat) (member : String) (v : Value) : Native Unit :=
  Native.modifyHeap fun h => h.mapAttributes parent (·.put member v)

/-- Loads modules along a dotted name; each becomes a member of the one before. -/
def loadPath (parent : Option Nat) : List String → Native Unit
  | [] => return
  | name :: rest => do
    let address ← loadOne name
    match parent with
    | some p => attach p ((Text.parts '.' name).getLastD name) (.ref address)
    | none => pure ()
    loadPath (some address) rest

/-- Raises the error of an import that was turned down; it tells the name of what is missing. -/
def refuseImport {α : Type} (fault : ImportFault) : Native α :=
  let p := fault.problem
  match fault with
  | .missing name | .notPackage name _ =>
    Native.failAbout p.kind [.text p.message] [("name", .text name)]
  | _ => Native.failProblem p

/-- Loads those modules of a package that are asked for as its members and are none yet. -/
def loadMembers (package : String) (members : List String) : Native Unit := do
  let address ← loadOne package
  for member in members do
    let there := (((← Native.heap).attributes address).get? member).isSome
    if ! there && ((membersOf? package).getD []).contains member then
      loadPath (some address) [package ++ "." ++ member]

/-- Imports a module through the guard, perhaps for members of it. -/
def importThrough (allowed : List String) (name : String) (level : Int) (forMembers : Bool)
    (members : List String) : Native Value := do
  match guardedLocate allowed name level with
  | .error refusal => refuseImport refusal
  | .ok path =>
    loadPath none path
    if forMembers then loadMembers (path.getLastD "") members
    match imported path forMembers with
    | .error refusal => refuseImport refusal
    | .ok name => return .ref (← loadOne name)

end SnippetRunner.Evaluation
