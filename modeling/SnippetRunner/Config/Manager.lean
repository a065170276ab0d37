import SnippetRunner.Config.Mapping
import SnippetRunner.Document.Json
import SnippetRunner.Document.Yaml.Content
import SnippetRunner.File.Folder
import SnippetRunner.Number.Reading
import SnippetRunner.Text.LetterCase

/-!
# The settings of a project

A project keeps its settings in one file, which is read by its suffix, as a JSON document or as an
indented one. Of a file that cannot be read at all, or breaks the notation, it is said that it
failed to load. Three variables of the environment change settings: the deadline, the port and the
level of the log. An empty variable is as good as none. The settings are changed one after another,
and checked at the end; what was changed before a fault stays changed.

Settings are loaded when they are first asked for, and held from then on. A file that does not load
leaves what is held; an environment that does not fit is noticed after the settings of the file
have been taken over.
-/

namespace SnippetRunner.Config

/-- The variables that are looked at. -/
structure Environment where
  deadline : Option String := none
  port : Option String := none
  logLevel : Option String := none
  deriving Repr, DecidableEq, Inhabited

/-- A change of settings that may fail half way. -/
abbrev Change := ExceptT Fault (StateM Settings)

/-- Does something with a variable that is not empty. -/
def whenSet (setting : Option String) (change : String → Change Unit) : Change Unit :=
  match setting with
  | none | some "" => return
  | some s => change s

/-- Sets the deadline, and raises the greatest one to it. -/
def setDeadline (s : String) : Change Unit := do
  match Number.readFloat? s with
  | none => throw (.rejected s!"SNIPBOX_DEADLINE_SECONDS must be a number, got {Text.quoted s}")
  | some x =>
    modify fun c => { c with engine := { c.engine with deadline := .float x } }
    let engine := (← get).engine
    if ← ExceptT.mk (pure ((engine.maxDeadline.less engine.deadline).mapError .failed)) then
      modify fun c => { c with engine := { c.engine with maxDeadline := .float x } }

/-- Sets the port. -/
def setPort (s : String) : Change Unit := do
  match Number.readInt s with
  | .error _ => throw (.rejected s!"PORT must be an integer, got {Text.quoted s}")
  | .ok n => modify fun c => { c with server := { c.server with port := .int n } }

/-- Sets the level of the log. -/
def setLogLevel (s : String) : Change Unit :=
  modify fun c => { c with logLevel := .text (Text.upper s) }

/-- Changes settings as the environment says. -/
def Environment.change (e : Environment) : Change Unit := do
  whenSet e.deadline setDeadline
  whenSet e.port setPort
  whenSet e.logLevel setLogLevel
  ExceptT.mk (pure (← get).engine.validate)

/-- Settings after what the environment says, and whether that went well. -/
def Settings.applyEnvironment (s : Settings) (e : Environment) : Except Fault Unit × Settings :=
  Id.run (e.change.run.run s)

/-- What is said of a file that failed to load; `reason` is what is known about it. -/
def loadFault (reason : Option String) : Fault :=
  .rejected ("Failed to load configuration" ++ (reason.map (": " ++ ·)).getD "")

/-- The fault of bytes that are no text. -/
def notText (e : Text.Utf8Error) : Fault := .failed ⟨"UnicodeDecodeError", e.message⟩

/-- How deeply the values of a JSON document may be nested. -/
def jsonDepth : Nat := 988

/-- Reads a JSON document. -/
def readJson (bytes : List UInt8) : Except Fault Data := do
  let source ← (File.textOf bytes).mapError notText
  (Document.Json.read jsonDepth source).mapError fun
    | .fault f => loadFault (some f.message)
    | .tooDeep holder => .failed ⟨"RecursionError", "maximum recursion depth exceeded while " ++
        s!"decoding a JSON {holder.word} from a unicode string"⟩
    | .longInteger digits =>
      .failed ⟨"ValueError", (Number.IntFault.tooLong digits).complaint 10 ""⟩

/-- Reads an indented document. -/
def readYaml (bytes : List UInt8) : Except Fault Data :=
  let (blocks, broken) := File.blocksOf bytes
  (Document.Yaml.read (.ofBlocks blocks broken.isSome)).mapError fun refusal =>
    match refusal, broken with
    | .unreadable, some e => notText e
    | _, _ => match refusal.problem? with
      | some problem => .failed problem
      | none => loadFault none

/-- The settings of a file. -/
def Settings.load (folder : File.Folder) (path : File.Path) : Except Fault Settings := do
  if ! (← (folder.contains path).mapError .failed) then
    throw (.rejected s!"Configuration file not found: {path.text}")
  let bytes ← (folder.read path).mapError fun _ => loadFault none
  let data ← if Text.lower path.suffix == ".json" then readJson bytes else readYaml bytes
  Settings.ofDocument data

/-- What a project's settings come from. -/
structure Surroundings where
  folder : File.Folder := {}
  environment : Environment := {}
  deriving Inhabited

/-- The settings of a project. -/
structure Manager where
  /-- The folder of the project. -/
  root : File.Path := {}
  held : Option Settings := none
  deriving Inhabited

namespace Manager

/-- The name of the file with the settings. -/
def fileName : String := "snipbox.yaml"

/-- Where the settings are. -/
def path (m : Manager) : File.Path := m.root.child fileName

/-- The settings before the environment is looked at: those of the file, if it is there. -/
def fileSettings (m : Manager) (around : Surroundings) : Except Fault Settings :=
  match around.folder.contains m.path with
  | .error problem => .error (.failed problem)
  | .ok true => Settings.load around.folder m.path
  | .ok false => .ok {}

/-- Loads the settings. -/
def load (m : Manager) (around : Surroundings) : Except Fault Settings × Manager :=
  match m.fileSettings around with
  | .error fault => (.error fault, m)
  | .ok settings =>
    let (result, settings) := settings.applyEnvironment around.environment
    (result.map fun _ => settings, { m with held := some settings })

/-- The settings, loaded if none are held. -/
def settings (m : Manager) (around : Surroundings) : Except Fault Settings × Manager :=
  match m.held with
  | some settings => (.ok settings, m)
  | none => m.load around

end Manager

end SnippetRunner.Config
