import SnippetRunner.Command.Session

/-!
# The program

Reads what a session needs from the files, the environment and the standard input, carries out the
command line, and prints the result.
-/

namespace SnippetRunner.Command

/-- Adds what is at a path to the files that are known. A folder is known by an entry that no path
reaches. -/
def addFile (folder : File.Folder) (path : String) : IO File.Folder := do
  let place := File.Path.ofText path
  try
    let bytes ← IO.FS.readBinFile path
    return folder.write place bytes.toList
  catch
    | .noFileOrDirectory _ _ _ => return folder
    | _ => return folder.write (place.child ".") []

/-- The paths that a command line looks at. -/
def Line.paths (line : Line) : List String :=
  let root := File.Path.ofText (line.root.getD "")
  let settings := (root.child Config.Manager.fileName).text
  match line.task with
  | .run a => if a.path == "-" then [settings] else [settings, a.path]
  | _ => [settings]

/-- Whether a command line reads the standard input. -/
def Line.readsInput (line : Line) : Bool :=
  match line.task with
  | .run a => a.path == "-"
  | _ => false

/-- What a command line finds when it is carried out. -/
def Line.world (line : Line) : IO World := do
  let folder ← line.paths.foldlM addFile {}
  let environment : Config.Environment :=
    ⟨← IO.getEnv "SNIPBOX_DEADLINE_SECONDS", ← IO.getEnv "PORT", ← IO.getEnv "SNIPBOX_LOG_LEVEL"⟩
  let input ← if line.readsInput then (← IO.getStdin).readToEnd else pure ""
  return { around := { folder, environment }, input }

/-- Prints how a session ended; the result is the code that the program ends with. -/
def Ending.print (e : Ending) : IO UInt32 := do
  IO.print e.printed
  if let some s := e.served then
    IO.println s!"snipbox listening on http://{s.host.shown}:{s.port.shown}"
  return e.code.toUInt32

end SnippetRunner.Command

open SnippetRunner.Command in
/-- Carries out the command line. -/
def main (args : List String) : IO UInt32 := do
  match Line.read args with
  | .error (.usage program message) =>
    IO.eprintln (usageLine program message)
    return 2
  | .error (.help program) =>
    IO.println s!"usage: {program} [options]"
    return 0
  | .error (.failed problem) =>
    IO.eprintln s!"{problem.kind}: {problem.message}"
    return 1
  | .ok line =>
    match line.perform (← line.world) with
    | .ok ending => ending.print
    | .error problem =>
      IO.eprintln s!"{problem.kind}: {problem.message}"
      return 1
