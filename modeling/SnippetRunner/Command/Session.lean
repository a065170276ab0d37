import SnippetRunner.Command.Line
import SnippetRunner.Config.Manager
import SnippetRunner.Engine.Snippets
import SnippetRunner.Log
import SnippetRunner.Sorting
import SnippetRunner.Terminal.Table

/-!
# A session

Carries out a command line: the settings are loaded first, then the log is set up, then comes the
task. The result is what is printed, the code that the program ends with, and what is served if
anything is.
-/

namespace SnippetRunner.Command

open SnippetRunner.Terminal

/-- What a session finds when it begins. -/
structure World where
  around : Config.Surroundings := {}
  input : String := ""
  /-- The compiler package, if it is installed. -/
  package : Option Coconut.Package := none

/-- What is served, with the level of the server's own log. -/
structure Served where
  host : Data
  port : Data
  level : Data

/-- The level of the server's own log as it is shown. -/
def Served.logLevel (s : Served) : String := s.level.shown

/-- How a session ends. -/
structure Ending where
  code : Nat
  printed : String := ""
  served : Option Served := none

/-- The width of the terminal. -/
def terminalWidth : Nat := 80

/-- The code for the status of a run. -/
def exitCode : Status → Nat
  | .ok => 0
  | .fault => 1
  | .dependencyMissing => 2

/-- A marked text as it is printed. -/
def printMarked (s : String) : Except Problem String :=
  (unmarked s).map (Terminal.printed terminalWidth)

/-- A failure in one marked line. -/
def failure (message : String) : Except Problem Ending := do
  return { code := 1, printed := ← printMarked ("[red]" ++ message ++ "[/red]") }

/-! ## Running a snippet -/

/-- The source of a snippet, or why it cannot be read. No file has a zero character in its name. -/
def readSource (world : World) (path : String) : Except Problem (Except String String) :=
  if path == "-" then .ok (.ok world.input)
  else if path.toList.contains '\x00' then .error ⟨"ValueError", "embedded null byte"⟩
  else
    let place := File.Path.ofText path
    match world.around.folder.read place with
    | .error fault => .ok (.error (fault.message place))
    | .ok bytes => .ok ((File.textOf bytes).mapError Text.Utf8Error.message)

/-- The dialect of a snippet: what is asked for, or else what its suffix says. -/
def dialectOf (a : RunArguments) : String :=
  match a.dialect with
  | some tag => tag
  | none =>
    if a.path == "-" then Dialect.python.name
    else (Dialect.ofSuffix (File.Path.ofText a.path).suffix).name

/-- A response as it is printed. -/
def printResponse (plain : Bool) (dialect : String) (r : Response) : Except Problem String := do
  if plain then return r.text ++ "\n"
  else
    let title ← unmarked s!"{dialect} · {r.status.name}"
    return panel terminalWidth title r.text.toList

/-- Runs a snippet once. -/
def run (world : World) (settings : Config.Settings) (a : RunArguments) :
    Except Problem Ending := do
  match ← readSource world a.path with
  | .error reason => failure s!"Cannot read {a.path}: {reason}"
  | .ok source =>
    let dialect := dialectOf a
    let engine ← snippetEngine settings.engine
    let request : Request :=
      { dialect := .text dialect, source := .text source
        deadline := (a.deadline.map Data.float).getD .null }
    let (answered, _) := engine.execute request (startProcess world.package)
    let response := (← answered.outcome).toResponse
    return { code := exitCode response.status
             printed := ← printResponse a.plain dialect response }

/-! ## Showing the dialects -/

/-- A limit in seconds. -/
def secondsText (v : Data) : Except Problem String := do
  match ← Config.EngineSettings.realOf v with
  | .float x => return Number.generalText x ++ "s"
  | v => return v.shown

/-- The texts that values are; `place` is that of the first one. -/
def textsFrom (place : Nat) : List Data → Except Problem (List String)
  | [] => return []
  | .text s :: rest => return s :: (← textsFrom (place + 1) rest)
  | v :: _ => throw ⟨"TypeError",
    s!"sequence item {place}: expected str instance, {v.typeName} found"⟩

/-- Names in order, with commas between them. -/
def nameList (v : Data) : Except Problem String := do
  return String.intercalate ", " (← textsFrom 0 (← Sorting.sort Data.less (← v.items)))

/-- The table of dialects. -/
def dialectTable (list : List Health) : Table where
  title := "Dialects".toList
  head := ["Dialect", "Available", "Detail"].map String.toList
  rows := list.map fun h =>
    [h.dialect.name, if h.available then "yes" else "no", h.detail].map String.toList

/-- Shows the dialects and the limits. -/
def showDialects (world : World) (settings : Config.Settings) : Except Problem Ending := do
  let list ← health (installedPackages world.package) (startProcess world.package).handles
  let engine := settings.engine
  let deadline ← secondsText engine.deadline
  let most ← secondsText engine.maxDeadline
  let limits ← printMarked
    s!"Deadline: {deadline} (max {most}), output cap: {← engine.maxOutput.print} chars"
  let modules ← printMarked s!"Importable modules: {← nameList engine.allowedModules}"
  return { code := 0, printed := (dialectTable list).printed ++ limits ++ modules }

/-! ## Serving -/

/-- A value that was asked for, unless it counts as false, or else a setting. -/
def preferred (wish : Option Data) (setting : Data) : Data :=
  match wish with
  | some v => if v.isTrue then v else setting
  | none => setting

/-- A text in lower case. Of bytes only the letters `A` to `Z` are changed. -/
def lowered : Data → Except Problem Data
  | .text s => .ok (.text (Text.lower s))
  | .bytes bs => .ok (.bytes (bs.map fun b => if 0x41 ≤ b && b ≤ 0x5a then b + 0x20 else b))
  | v => .error ⟨"AttributeError", s!"'{v.typeName}' object has no attribute 'lower'"⟩

/-- What is served. Host and port are written to the log first. -/
def serve (settings : Config.Settings) (a : ServeArguments) : Except Problem Ending := do
  let host := preferred (a.host.map Data.text) settings.server.host
  let port := preferred (a.port.map Data.int) settings.server.port
  let _ ← host.print
  let _ ← port.print
  let _ ← snippetEngine settings.engine
  let level ← lowered settings.logLevel
  return { code := 0, served := some { host, port, level } }

/-! ## Sessions -/

/-- Carries out a task. -/
def Task.perform (world : World) (settings : Config.Settings) : Task → Except Problem Ending
  | .run a => Command.run world settings a
  | .serve a => Command.serve settings a
  | .doctor => showDialects world settings

/-- The level that the log is set up with. -/
def startLevel (line : Line) (settings : Config.Settings) : Data :=
  preferred (line.logLevel.map Data.text) settings.logLevel

/-- Carries out a command line. -/
def Line.perform (line : Line) (world : World) : Except Problem Ending := do
  let manager : Config.Manager := { root := .ofText (line.root.getD "") }
  match (manager.settings world.around).1 with
  | .error (.rejected message) => failure message
  | .error (.failed problem) => throw problem
  | .ok settings =>
    let _ ← ({} : Log.Root).setUp (startLevel line settings)
    line.task.perform world settings

end SnippetRunner.Command
