import SnippetRunner.Config.Basic

/-!
# Settings from a mapping

A document gives settings by name, those of the engine and of the server in a section each. Only
known names are accepted; a section that counts as false is as good as none.
-/

namespace SnippetRunner.Config

/-- Settings that are read from entries; `owner` is how they are named in complaints. -/
structure Reading (α : Type) where
  owner : String
  /-- What an entry changes, if its name is known. -/
  set? : String → Data → α → Option α

namespace Reading

variable {α : Type}

/-- Reads entries in order; the first unknown one is complained about. -/
def readEntries (r : Reading α) : List (Data × Data) → α → Except String α
  | [], s => .ok s
  | (.text "self", _) :: _, _ =>
    .error s!"{r.owner}.__init__() got multiple values for argument 'self'"
  | (.text id, v) :: rest, s =>
    match r.set? id v s with
    | some s => r.readEntries rest s
    | none => .error s!"{r.owner}.__init__() got an unexpected keyword argument '{id}'"
  | _ :: _, _ => .error "keywords must be strings"

/-- Whether a key is text. -/
def isTextKey : Data × Data → Bool
  | (.text _, _) => true
  | _ => false

/-- Reads entries, which all must have a text for a key. -/
def read (r : Reading α) (entries : List (Data × Data)) (s : α) : Except String α :=
  if entries.all isTextKey then r.readEntries entries s else .error "keywords must be strings"

end Reading

/-- How the engine's settings are read. -/
def engineReading : Reading EngineSettings where
  owner := "EngineConfig"
  set? id v s :=
    match id with
    | "deadline_seconds" => some { s with deadline := v }
    | "max_deadline_seconds" => some { s with maxDeadline := v }
    | "max_output_chars" => some { s with maxOutput := v }
    | "allowed_modules" => some { s with allowedModules := v }
    | _ => none

/-- How the server's settings are read. -/
def serverReading : Reading ServerSettings where
  owner := "ServerConfig"
  set? id v s :=
    match id with
    | "host" => some { s with host := v }
    | "port" => some { s with port := v }
    | "max_body_bytes" => some { s with maxBody := v }
    | _ => none

/-- How the settings outside the sections are read. -/
def topReading : Reading Settings where
  owner := "SnipboxConfig"
  set? id v s :=
    match id with
    | "log_level" => some { s with logLevel := v }
    | _ => none

/-- The entries of a section; one that counts as false has none. -/
def section? (entries : List (Data × Data)) (name : String) : Option (List (Data × Data)) :=
  match Data.lookup? entries (.text name) with
  | none => some []
  | some v =>
    if ! v.isTrue then some []
    else match v with
      | .mapping inner => some (Data.entryParts inner)
      | _ => none

/-- The settings that entries give, not checked yet. -/
def Settings.ofEntries (entries : List (Data × Data)) : Except Fault Settings := do
  match section? entries "engine", section? entries "server" with
  | some engine, some server =>
    let reading : Except String Settings := do
      let engine ← engineReading.read engine {}
      let server ← serverReading.read server {}
      let rest := Data.erase (Data.erase entries (.text "engine")) (.text "server")
      topReading.read rest { engine, server }
    reading.mapError fun complaint => .rejected s!"Unknown configuration key: {complaint}"
  | _, _ => .error (.rejected "'engine' and 'server' sections must be mappings")

/-- The settings that a value gives. -/
def Settings.ofData (v : Data) : Except Fault Settings := do
  match v with
  | .mapping entries =>
    let settings ← Settings.ofEntries (Data.entryParts entries)
    settings.engine.validate
    return settings
  | _ => throw (.rejected "Configuration root must be a mapping")

/-- The settings that a document gives. One that counts as false gives the usual ones. -/
def Settings.ofDocument (v : Data) : Except Fault Settings :=
  Settings.ofData (if v.isTrue then v else .mapping [])

end SnippetRunner.Config
