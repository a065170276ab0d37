import SnippetRunner.Dialect.Coconut
import SnippetRunner.Engine.Basic
import SnippetRunner.Sandbox.Build

/-!
# The engine of snippets

The engine with the language of snippets, and the process it works in: the registered dialects and
the objects that outlive a run.
-/

namespace SnippetRunner

open SnippetRunner.Evaluation SnippetRunner.Sandbox SnippetRunner.Fault

/-- The engine of snippets. -/
abbrev SnippetEngine := Engine Callback Program Nat Heap Table

/-- The process it works in. -/
abbrev SnippetProcess := Process Heap Table

mutual

/-- What makes a value no member of a set. -/
def unhashable? : Data → Option String
  | .tuple items => firstUnhashable? items
  | v@(.list _) | v@(.mapping _) | v@(.set _) => some v.typeName
  | _ => none

/-- What makes the first value that is no member of a set none. -/
def firstUnhashable? : List Data → Option String
  | [] => none
  | v :: rest => (unhashable? v).or (firstUnhashable? rest)

end

/-- The names among values that are to be a set. -/
def nameSet (items : List Data) : Except Problem (List String) :=
  match firstUnhashable? items with
  | some typeName => .error ⟨"TypeError", s!"unhashable type: '{typeName}'"⟩
  | none => .ok (items.filterMap fun
    | .text s => some s
    | _ => none)

/-- The modules that a setting lets in; a text stands for its characters. -/
def allowedModules : Data → Except Problem (List String)
  | .null => .ok defaultModules
  | .text s => .ok (s.toList.map (String.singleton ·))
  | .bytes _ => .ok []
  | .list items => nameSet items
  | .tuple items | .set items => nameSet items
  | .mapping entries => nameSet (entries.map (·.1))
  | v => .error ⟨"TypeError", s!"'{v.typeName}' object is not iterable"⟩

/-- The cap that a setting gives. -/
def capOf : Data → Capture.Cap
  | .int n => .whole n
  | .bool b => .whole (if b then 1 else 0)
  | .float x => .real x
  | _ => .whole 50000

/-- What contexts are made with under given settings. -/
def contextSettings (allowed maxOutput : Data) : Except Problem Sandbox.Settings :=
  (allowedModules allowed).map fun allowed => { allowed, cap := capOf maxOutput }

/-- Makes the engine for settings that pass the checks. -/
def snippetEngine (settings : Config.EngineSettings) : Except Problem SnippetEngine := do
  settings.validate.mapError Config.Fault.problem
  let contexts ← contextSettings settings.allowedModules settings.maxOutput
  return { settings, language := snippetLanguage
           build := fun helpers h => contexts.build (helpers.getD []) h }

/-- The transpiler that a package gives, with its helpers. -/
def coconutTranspiler (package : Option Coconut.Package) (helpers : Table) :
    Except Raised (Transpiler Table) :=
  (Coconut.Package.check package).map fun _ =>
    { prepare := Coconut.compile, helpers := Coconut.visibleHelpers helpers }

/-- The handle of the foreign dialect. -/
def coconutHandle (package : Option Coconut.Package) (helpers : Table) :
    Handle (Transpiler Table) :=
  { dialect := .coconut, package := Coconut.packageName
    load := fun _ => coconutTranspiler package helpers }

/-- The names of a package's helpers. -/
def helperNames : Option Coconut.Package → List String
  | none => []
  | some p => p.helpers

/-- A process at its start, with a compiler package if one is installed. -/
def startProcess (package : Option Coconut.Package) : SnippetProcess :=
  let (helpers, objects) := makeHelpers {} (helperNames package)
  { handles := [(.coconut, coconutHandle package helpers)], objects }

/-- The packages that can be found besides those of the host. -/
def installedPackages (package : Option Coconut.Package) : List String :=
  if package.isSome then [Coconut.packageName] else []

end SnippetRunner
