import SnippetRunner.Command.Session
import SnippetRunner.Proofs.Config.Documents
import SnippetRunner.Proofs.Config.Exposure
import SnippetRunner.Proofs.Number.Digits

/-!
# Which value of a setting goes first

The host, the port and the level of the log can be given on the command line, in the environment and
in the project's file. The command line goes before the environment, the environment before the
file, and the file before the usual value.

* `Line.read_serve` says what a command line with options is read as.
* `Sources.chosen` is the value that goes first, and `Sources.heeded` leaves out an option that does
  not count.
* `Line.serves_iff` says when a server is started, and with what.
* `served_by_precedence` puts both together for a project, and `served_without_options` shows
  options that are not heeded.
-/

namespace SnippetRunner.Text

/-! ## Letters without accents in both cases -/

lemma toUpper_toUpper_toLower {c : Char} (hascii : c.toNat < 128) :
    c.toUpper.toNat < 128 ∧ c.toUpper.toUpper = c.toUpper ∧ c.toUpper.toLower = c.toLower := by
  have hall : ∀ n < 128, (Char.ofNat n).toUpper.toNat < 128 ∧
      (Char.ofNat n).toUpper.toUpper = (Char.ofNat n).toUpper ∧
      (Char.ofNat n).toUpper.toLower = (Char.ofNat n).toLower := by decide
  simpa using hall c.toNat hascii

lemma flatMap_upperChar {cs : List Char} (hascii : ∀ c ∈ cs, c.toNat < 128) :
    cs.flatMap upperChar = cs.map Char.toUpper := by
  induction cs with
  | nil => rfl
  | cons c rest ih =>
    rw [List.flatMap_cons, upperChar, if_pos (hascii c (by simp)),
      ih fun d hd => hascii d (by simp [hd])]
    rfl

lemma lowerFrom_ascii {cs : List Char} (hascii : ∀ c ∈ cs, c.toNat < 128) (before : List Char) :
    lowerFrom before cs = cs.map Char.toLower := by
  induction cs generalizing before with
  | nil => rfl
  | cons c rest ih =>
    have hc : c.toNat < 128 := hascii c (by simp)
    have hsigma : c ≠ '\u03a3' := by rintro rfl; exact absurd hc (by decide)
    have hdotted : c ≠ '\u0130' := by rintro rfl; exact absurd hc (by decide)
    rw [lowerFrom, lowerChar, if_neg (by simpa using hsigma), if_neg (by simpa using hdotted),
      if_pos hc, ih fun d hd => hascii d (by simp [hd])]
    rfl

/-- Letters without accents that are made capitals first come to the same in either case. -/
lemma cases_upper {s : String} (hascii : ∀ c ∈ s.toList, c.toNat < 128) :
    upper (upper s) = upper s ∧ lower (upper s) = lower s := by
  have hupper : (upper s).toList = s.toList.map Char.toUpper := by
    rw [upper, String.toList_ofList, flatMap_upperChar hascii]
  have hascii' : ∀ c ∈ (upper s).toList, c.toNat < 128 := by
    intro c hc
    rw [hupper] at hc
    obtain ⟨d, hd, rfl⟩ := List.mem_map.mp hc
    exact (toUpper_toUpper_toLower (hascii d hd)).1
  constructor
  · rw [upper, flatMap_upperChar hascii', ← String.toList_inj, String.toList_ofList, hupper,
      List.map_map]
    exact List.map_congr_left fun c hc => (toUpper_toUpper_toLower (hascii c hc)).2.1
  · rw [lower, lower, lowerFrom_ascii hascii', lowerFrom_ascii hascii, hupper, List.map_map]
    exact congrArg String.ofList
      (List.map_congr_left fun c hc => (toUpper_toUpper_toLower (hascii c hc)).2.2)

end SnippetRunner.Text

namespace SnippetRunner.Config

/-! ## The settings of a project -/

namespace Manager

variable (m : Manager) (around : Surroundings)

/-- What a project's file says, if there is one. -/
def file : Except Fault (Option Data) :=
  match around.folder.contains m.path with
  | .error problem => .error (.failed problem)
  | .ok false => .ok none
  | .ok true => do
    let bytes ← (around.folder.read m.path).mapError fun _ => loadFault none
    return some (← readYaml bytes)

lemma path_suffix : m.path.suffix = ".yaml" := by
  rw [path, File.Path.child, File.Path.suffix, List.getLastD_concat]
  decide

/-- The settings before the environment is looked at are those of the file. -/
lemma fileSettings_eq : m.fileSettings around = m.file around >>= Settings.ofFile := by
  unfold fileSettings file
  rcases hthere : around.folder.contains m.path with problem | _ | _
  · rfl
  · rfl
  · have hyaml : (Text.lower m.path.suffix == ".json") = false := by
      rw [path_suffix]
      decide
    simp only [Settings.load, hthere, hyaml, bind, Except.bind, Except.mapError]
    rcases around.folder.read m.path with fault | bytes
    · rfl
    · rcases hread : readYaml bytes with fault | document <;> simp only [hread] <;> rfl

/-- Settings that a manager loads are those of the file, changed as the environment asks. -/
lemma exists_of_settings {root : File.Path} {s : Settings}
    (loaded : (Manager.settings { root } around).1 = .ok s) :
    ∃ file first, Manager.file { root } around = .ok file ∧ Settings.ofFile file = .ok first ∧
      first.applyEnvironment around.environment = (.ok (), s) := by
  have hload : Manager.settings { root } around = Manager.load { root } around := rfl
  rw [hload] at loaded
  rcases Manager.load_cases { root } around with ⟨fault, -, h⟩ | ⟨first, fault, t, -, -, h⟩ |
    ⟨first, t, hfile, happlied, h⟩ <;> rw [h] at loaded
  · cases loaded
  · cases loaded
  · cases loaded
    rw [fileSettings_eq] at hfile
    rcases hread : Manager.file { root } around with fault | file <;> rw [hread] at hfile
    · cases hfile
    · exact ⟨file, first, rfl, hfile, happlied⟩

/-- The values of settings that a manager loads: first of all those from the environment, then those
from the file. -/
lemma values_of_settings {root : File.Path} {s : Settings}
    (loaded : (Manager.settings { root } around).1 = .ok s) :
    ∃ file port, Manager.file { root } around = .ok file ∧
      around.environment.portAsked = .ok port ∧
      s.server.host = (serverValue "host" file).getD (.text "0.0.0.0") ∧
      s.server.port = ((port.map Data.int).or (serverValue "port" file)).getD (.int 5000) ∧
      s.logLevel = ((around.environment.levelAsked.map Data.text).or
        (topValue "log_level" file)).getD (.text "INFO") := by
  obtain ⟨file, first, hfile, hfirst, happlied⟩ := exists_of_settings around loaded
  obtain ⟨o, asks, rfl⟩ := Settings.exists_asks happlied
  obtain ⟨hhost, hport, hlevel⟩ := Settings.ofFile_values hfirst
  obtain ⟨hhost', hport', hlevel'⟩ := first.override_values o
  refine ⟨file, o.port, hfile, asks.port, ?_, ?_, ?_⟩
  · rw [hhost', hhost]
  · rw [hport', hport, Option.getD_or]
  · rw [hlevel', hlevel, Option.getD_or, asks.logLevel]

/-- What a manager loads from a file and an environment that can be read. -/
lemma settings_of_asks {root : File.Path} {first : Settings} {o : Overrides}
    (hfile : Manager.fileSettings { root } around = .ok first) (asks : around.environment.Asks o)
    (hcompared : first.compared o.deadline = .ok ()) :
    (Manager.settings { root } around).1
      = (first.override o).engine.validate.map fun _ => first.override o := by
  have hload : Manager.settings { root } around = Manager.load { root } around := rfl
  rw [hload]
  simp only [load, hfile, Settings.applyEnvironment_of_asks asks hcompared]

/-- The limits of settings that a manager loads have passed the checks. -/
lemma valid_of_settings {root : File.Path} {s : Settings}
    (loaded : (Manager.settings { root } around).1 = .ok s) : s.engine.validate = .ok () := by
  obtain ⟨_, _, -, -, happlied⟩ := exists_of_settings around loaded
  exact valid_of_applyEnvironment happlied

end Manager

end SnippetRunner.Config

namespace SnippetRunner.Command

open SnippetRunner.Config

/-! ## Options that are given -/

lemma ne_dashes {text : String} (hword : text.startsWith "-" = false) : text ≠ "--" := by
  rintro rfl
  revert hword
  with_unfolding_all decide

/-- A text that starts with two hyphens is no negative number. -/
lemma isNegativeNumber_dashes {text : String} {cs : List Char}
    (htext : text.toList = '-' :: '-' :: cs) : isNegativeNumber text = false := by
  have hhyphen : Text.decimalValue? '-' = none := by
    rw [Text.decimalValue?_of_byte (by decide)]
    rfl
  simp [isNegativeNumber, htext, hhyphen]

namespace Parser

variable {ω : Type} {p : Parser ω} {text : String}

lemma kindOf_word (hword : text.startsWith "-" = false) : p.kindOf text = .ok .word := by
  rw [kindOf, beq_false_of_ne (ne_dashes hword), hword]
  rfl

/-- A word that starts with a hyphen and that no option has is left over as an option. -/
lemma kindOf_unknown (hdash : text.startsWith "-") (hlong : text ≠ "-" ∧ text ≠ "--")
    (hsplit : splitValue text = (text, none)) (hname : p.names.lookup text = none)
    (hcandidates : p.candidates text = [])
    (hplain : (isNegativeNumber text || text.toList.contains ' ') = false) :
    p.kindOf text = .ok (.option none none) := by
  rw [kindOf, beq_false_of_ne hlong.2, hdash, hname, hsplit, beq_false_of_ne hlong.1, hcandidates,
    hplain]
  rfl

lemma kinds_nil : p.kinds [] = .ok [] := rfl

lemma kinds_cons {kind : Kind ω} {rest : List String} {words : List (String × Kind ω)}
    (hkind : p.kindOf text = .ok kind) (hne : kind ≠ .separator)
    (hrest : p.kinds rest = .ok words) : p.kinds (text :: rest) = .ok ((text, kind) :: words) := by
  rw [kinds, hkind]
  cases kind <;> simp_all [bind, Except.bind, pure, Except.pure]

section ReadWords

variable {r : Result ω} {after : List (String × Kind ω)} {fuel : Nat}

/-- An option with a value changes what was read. -/
lemma readWords_value {name : String} {s : Switch ω} {read : String → Except String (ω → ω)}
    (change : ω → ω) (haction : s.action = .value read) (hword : text.startsWith "-" = false)
    (hread : read text = .ok change) :
    p.readWords r ((name, .option (some s) none) :: (text, .word) :: after) (fuel + 1)
      = p.readWords { r with state := change r.state } after fuel := by
  simp only [readWords, takeOption, haction, takeValue, beq_false_of_ne (ne_dashes hword), hread]
  rfl

/-- The first word that belongs to no option takes all that follows it. -/
lemma readWords_rest {name : String} {read : List String → ω → Except Stop ω} {state : ω}
    {words : List String} (hpositional : p.positional = .rest name read)
    (hopen : r.complete = false) (hwords : text :: after.map (·.1) = words)
    (hread : read words r.state = .ok state) :
    p.readWords r ((text, .word) :: after) (fuel + 1)
      = p.readWords { r with state, complete := true } [] fuel := by
  subst hwords
  have htaken : p.takePositional ((text, .word) :: after) r.state
      = .ok (some (state, after.length + 1)) := by
    simp only [takePositional, hpositional]
    change (read (text :: after.map (·.1)) r.state >>= _) = _
    rw [hread]
    rfl
  rw [readWords, hopen]
  · simp only [htaken, bind, Except.bind, Bool.false_eq_true, if_false]
    rw [List.drop_eq_nil_of_le (by simp)]
  · exact nofun

end ReadWords

/-- What is read, if all that has to stand between the options is there. -/
lemma read_eq {start state : ω} {args extras : List String} {words : List (String × Kind ω)}
    (complete : Bool) (hwords : p.kinds args = .ok words)
    (hread : p.readWords ⟨start, false, []⟩ words (words.length + 1)
      = .ok ⟨state, complete, extras⟩)
    (hcomplete : p.positional = .nothing ∨ complete = true) :
    p.read start args = .ok (state, extras) := by
  rw [read, hwords]
  change (p.readWords ⟨start, false, []⟩ words (words.length + 1) >>= _) = _
  rw [hread]
  rcases hcomplete with hnothing | rfl
  · rw [hnothing]
    rfl
  · cases p.positional <;> rfl

end Parser

/-- The arguments for a server with a host and a port. -/
lemma serveParser_read {host port : String} {n : Int} (hhost : host.startsWith "-" = false)
    (hport : port.startsWith "-" = false) (hread : Number.readInt port = .ok n) :
    serveParser.read {} ["--host", host, "--port", port]
      = .ok ({ host := some host, port := some n }, []) := by
  have hhostKind : serveParser.kindOf "--host" = .ok (.option
      (some (textSwitch ["--host"] fun s a => { a with host := some s })) none) := by
    with_unfolding_all rfl
  have hportKind : serveParser.kindOf "--port" = .ok (.option
      (some (integerSwitch ["--port"] fun n a => { a with port := some n })) none) := by
    with_unfolding_all rfl
  have hkinds := Parser.kinds_cons hhostKind nofun <|
    Parser.kinds_cons (Parser.kindOf_word hhost) nofun <| Parser.kinds_cons hportKind nofun <|
    Parser.kinds_cons (Parser.kindOf_word hport) nofun Parser.kinds_nil
  refine Parser.read_eq false hkinds ?_ (Or.inl rfl)
  rw [List.length_cons, List.length_cons,
    Parser.readWords_value (fun a => { a with host := some host }) rfl hhost rfl,
    Parser.readWords_value (fun a => { a with port := some n }) rfl hport (by simp only [hread])]
  rfl

/-- A command line for a server with a level of the log, a host and a port. -/
lemma Line.read_serve {level host port : String} {n : Int} (hlevel : level.startsWith "-" = false)
    (hhost : host.startsWith "-" = false) (hport : port.startsWith "-" = false)
    (hread : Number.readInt port = .ok n) :
    Line.read ["--log-level", level, "serve", "--host", host, "--port", port]
      = .ok { logLevel := some level, task := .serve { host := some host, port := some n } } := by
  have hlevelKind : lineParser.kindOf "--log-level" = .ok (.option (some (textSwitch ["--log-level"]
      fun s d => { d with line := { d.line with logLevel := some s } })) none) := by
    with_unfolding_all rfl
  have hserveKind : lineParser.kindOf "serve" = .ok .word := Parser.kindOf_word (by with_unfolding_all decide)
  have hhostKind : lineParser.kindOf "--host" = .ok (.option none none) :=
    Parser.kindOf_unknown (by with_unfolding_all decide) (by decide) (by rfl) (by rfl)
      (by with_unfolding_all rfl) (by rw [isNegativeNumber_dashes rfl]; rfl)
  have hportKind : lineParser.kindOf "--port" = .ok (.option none none) :=
    Parser.kindOf_unknown (by with_unfolding_all decide) (by decide) (by rfl) (by rfl)
      (by with_unfolding_all rfl) (by rw [isNegativeNumber_dashes rfl]; rfl)
  have htask (d : Draft) : readTask ["serve", "--host", host, "--port", port] d = .ok
      { line := { d.line with task := .serve { host := some host, port := some n } }
        extras := [] } := by
    simp only [readTask, serveParser_read hhost hport hread]
    rfl
  have hkinds := Parser.kinds_cons hlevelKind nofun <|
    Parser.kinds_cons (Parser.kindOf_word hlevel) nofun <|
    Parser.kinds_cons hserveKind nofun <| Parser.kinds_cons hhostKind nofun <|
    Parser.kinds_cons (Parser.kindOf_word hhost) nofun <|
    Parser.kinds_cons hportKind nofun <|
    Parser.kinds_cons (Parser.kindOf_word hport) nofun Parser.kinds_nil
  have hline : lineParser.read {} ["--log-level", level, "serve", "--host", host, "--port", port]
      = .ok ({ line := ⟨none, some level, .serve { host := some host, port := some n }⟩ }, []) := by
    refine Parser.read_eq true hkinds ?_ (Or.inr rfl)
    rw [List.length_cons, List.length_cons,
      Parser.readWords_value (fun d => { d with line := { d.line with logLevel := some level } })
        rfl hlevel rfl,
      Parser.readWords_rest rfl rfl rfl (htask _)]
    rfl
  rw [Line.read, hline]
  rfl

/-! ## Where a setting may come from -/

/-- The values that a setting has on the command line, in the environment and in the project's file,
and the one that it has where nothing is said. -/
structure Sources where
  option : Option Data
  environment : Option Data
  file : Option Data
  usual : Data

namespace Sources

variable (s : Sources)

/-- The value that goes first. -/
def chosen : Data := (s.option.or (s.environment.or s.file)).getD s.usual

/-- The sources but the command line. -/
def project : Sources := { s with option := none }

/-- The sources with an option that counts as false left out. -/
def heeded : Sources := { s with option := s.option.filter Data.isTrue }

lemma preferred_eq : preferred s.option s.project.chosen = s.heeded.chosen := by
  rcases s with ⟨_ | v, environment, file, usual⟩
  · rfl
  · cases htrue : v.isTrue <;> simp [preferred, project, heeded, chosen, Option.filter, htrue]

lemma heeded_eq_iff : s.heeded = s ↔ ∀ v, s.option = some v → v.isTrue = true := by
  rcases s with ⟨_ | v, environment, file, usual⟩ <;> simp [heeded]

lemma project_eq_iff : s.project = s ↔ s.option = none := by
  rcases s with ⟨_ | v, environment, file, usual⟩ <;> simp [project]

end Sources

/-- Where the host may come from. -/
def hostSources (a : ServeArguments) (file : Option Data) : Sources where
  option := a.host.map .text
  environment := none
  file := serverValue "host" file
  usual := .text "0.0.0.0"

/-- Where the port may come from; `port` is the one that the environment asks for. -/
def portSources (a : ServeArguments) (port : Option Int) (file : Option Data) : Sources where
  option := a.port.map .int
  environment := port.map .int
  file := serverValue "port" file
  usual := .int 5000

/-- Where the level of the log may come from. -/
def levelSources (line : Line) (e : Environment) (file : Option Data) : Sources where
  option := line.logLevel.map .text
  environment := e.levelAsked.map .text
  file := topValue "log_level" file
  usual := .text "INFO"

/-! ## Servers that are started -/

/-- Whether a value can be a level of the log. -/
def IsLevel : Data → Prop
  | .text _ | .int _ | .bool _ => True
  | _ => False

/-- Whether two levels are the same whatever the case of their letters, to the log and to the
server. -/
def SameLevel (v w : Data) : Prop := Log.levelOf v = Log.levelOf w ∧ lowered v = lowered w

/-- Two steps go well if the first one does and then the second one. -/
lemma bind_eq_ok_iff {ε α β : Type} {x : Except ε α} {f : α → Except ε β} {b : β} :
    (x >>= f) = .ok b ↔ ∃ a, x = .ok a ∧ f a = .ok b := by
  rcases x with fault | a
  · exact iff_of_false nofun nofun
  · simp only [Except.ok.injEq, exists_eq_left']
    rfl

lemma exists_setUp_iff {r : Log.Root} {v : Data} : (∃ r', r.setUp v = .ok r') ↔ IsLevel v := by
  simp only [Log.Root.setUp, bind_eq_ok_iff]
  cases v with
  | text | int | bool => exact iff_of_true ⟨_, _, rfl, rfl⟩ trivial
  | _ =>
    refine iff_of_false ?_ id
    rintro ⟨-, level, hlevel, -⟩
    obtain ⟨-, -, h⟩ := bind_eq_ok_iff.mp hlevel
    cases h

lemma exists_snippetEngine_iff {s : EngineSettings} (valid : s.validate = .ok ()) :
    (∃ engine, snippetEngine s = .ok engine) ↔
      ∃ names, allowedModules s.allowedModules = .ok names := by
  simp only [snippetEngine, valid, contextSettings]
  rcases allowedModules s.allowedModules with problem | names
  · exact iff_of_false (fun ⟨_, h⟩ => nomatch h) (fun ⟨_, h⟩ => nomatch h)
  · exact iff_of_true ⟨_, rfl⟩ ⟨names, rfl⟩

lemma exists_print_iff {v : Data} : (∃ text, v.print = .ok text) ↔ v.isTooLong = false := by
  unfold Data.print
  cases v.isTooLong <;> simp

section Serve

variable {settings : Settings} {a : ServeArguments} {host port : Data}

/-- A server is started if its host and port can be shown, the modules can be let in, and the level
has a case; then it gets the host, the port and the level in lower case. -/
lemma serve_eq_ok_iff {ending : Ending} (valid : settings.engine.validate = .ok ())
    (hhost : preferred (a.host.map Data.text) settings.server.host = host)
    (hport : preferred (a.port.map Data.int) settings.server.port = port) :
    serve settings a = .ok ending ↔
      host.isTooLong = false ∧ port.isTooLong = false ∧
        (∃ names, allowedModules settings.engine.allowedModules = .ok names) ∧
        ∃ level, lowered settings.logLevel = .ok level ∧
          ending = { code := 0, served := some { host, port, level } } := by
  simp only [serve, hhost, hport, bind_eq_ok_iff, exists_and_right, exists_print_iff,
    exists_snippetEngine_iff valid, pure, Except.pure, Except.ok.injEq, @eq_comm _ _ ending]

namespace Line

variable (line : Line) (world : World)

/-- What manages the settings of the project. -/
def manager : Manager := { root := .ofText (line.root.getD "") }

/-- Whether a server is started by the command line. -/
def Serves (served : Served) : Prop :=
  ∃ ending, line.perform world = .ok ending ∧ ending.served = some served

variable {line world}

/-- The log is set up first, and then the server is started. -/
lemma perform_serve (task : line.task = .serve a)
    (loaded : (line.manager.settings world.around).1 = .ok settings) :
    line.perform world =
      (({} : Log.Root).setUp (startLevel line settings) >>= fun _ => serve settings a) := by
  rw [manager] at loaded
  simp only [perform, loaded, task]
  rfl

/-- A server is started if the log takes the level that it is set up with, and the server can be
started. -/
lemma serves_iff {served : Served} (task : line.task = .serve a)
    (loaded : (line.manager.settings world.around).1 = .ok settings)
    (hhost : preferred (a.host.map Data.text) settings.server.host = host)
    (hport : preferred (a.port.map Data.int) settings.server.port = port) :
    line.Serves world served ↔
      (served.host = host ∧ served.port = port ∧ lowered settings.logLevel = .ok served.level) ∧
        IsLevel (startLevel line settings) ∧ host.isTooLong = false ∧ port.isTooLong = false ∧
        ∃ names, allowedModules settings.engine.allowedModules = .ok names := by
  have valid := Manager.valid_of_settings world.around loaded
  rw [Serves, perform_serve task loaded]
  constructor
  · rintro ⟨ending, hending, hserved⟩
    obtain ⟨root, hroot, hserve⟩ := bind_eq_ok_iff.mp hending
    obtain ⟨hhost, hport, hmodules, level, hlevel, rfl⟩ :=
      (serve_eq_ok_iff valid hhost hport).mp hserve
    obtain rfl := Option.some.inj hserved
    exact ⟨⟨rfl, rfl, hlevel⟩, exists_setUp_iff.mp ⟨root, hroot⟩, hhost, hport, hmodules⟩
  · obtain ⟨servedHost, servedPort, level⟩ := served
    rintro ⟨⟨rfl, rfl, hlevel⟩, hlog, hshown⟩
    obtain ⟨hhost', hport', hmodules⟩ := hshown
    obtain ⟨root, hroot⟩ := exists_setUp_iff.mpr hlog
    have hserve := (serve_eq_ok_iff valid hhost hport).mpr
      ⟨hhost', hport', hmodules, level, hlevel, rfl⟩
    exact ⟨_, bind_eq_ok_iff.mpr ⟨root, hroot, hserve⟩, rfl⟩

end Line

end Serve

/-! ## A project -/

section Project

variable {line : Line} {a : ServeArguments} {e : Environment} {port : Option Int}
  {file : Option Data}

lemma hostSources_heeded_iff :
    (hostSources a file).heeded = hostSources a file ↔ a.host ≠ some "" := by
  rw [Sources.heeded_eq_iff]
  rcases a with ⟨_ | host, port⟩ <;> simp [hostSources, Data.isTrue]

lemma portSources_heeded_iff :
    (portSources a port file).heeded = portSources a port file ↔ a.port ≠ some 0 := by
  rw [Sources.heeded_eq_iff]
  rcases a with ⟨host, _ | n⟩ <;> simp [portSources, Data.isTrue]

lemma levelSources_heeded_iff :
    (levelSources line e file).heeded = levelSources line e file ↔ line.logLevel ≠ some "" := by
  rw [Sources.heeded_eq_iff]
  rcases line with ⟨root, _ | level, task⟩ <;> simp [levelSources, Data.isTrue]

lemma levelSources_project_iff :
    (levelSources line e file).project = levelSources line e file ↔ line.logLevel = none := by
  rw [Sources.project_eq_iff]
  rcases line with ⟨root, _ | level, task⟩ <;> simp [levelSources]

/-- A name of letters without accents is the same level in capitals. -/
lemma sameLevel_upper {name : String} (hascii : ∀ c ∈ name.toList, c.toNat < 128) :
    SameLevel (.text (Text.upper name)) (.text name) := by
  obtain ⟨hupper, hlower⟩ := Text.cases_upper hascii
  exact ⟨by simp only [Log.levelOf, Log.levelNumber, hupper], by simp only [lowered, hlower]⟩

end Project

/-- With settings that can be loaded, the host, the port and the level of the log are the first that
is given: on the command line, in the environment, in the file. An empty text and the port zero do
not count on the command line, and no level that stands there is given to the server. A server is
started if the log takes the level, the host and the port can be shown, and the modules can be let
in. -/
theorem served_by_precedence {line : Line} {world : World} {a : ServeArguments}
    {settings : Settings} (task : line.task = .serve a)
    (loaded : (line.manager.settings world.around).1 = .ok settings) :
    ∃ file asked, line.manager.file world.around = .ok file ∧
      world.around.environment.portAsked = .ok asked ∧
      let host := hostSources a file
      let port := portSources a asked file
      let level := levelSources line world.around.environment file
      startLevel line settings = level.heeded.chosen ∧
      (∀ served, line.Serves world served ↔
        (served.host = host.heeded.chosen ∧ served.port = port.heeded.chosen ∧
          lowered level.project.chosen = .ok served.level) ∧
        IsLevel level.heeded.chosen ∧ host.heeded.chosen.isTooLong = false ∧
          port.heeded.chosen.isTooLong = false ∧
          ∃ names, allowedModules settings.engine.allowedModules = .ok names) ∧
      ((host.heeded = host ↔ a.host ≠ some "") ∧ (port.heeded = port ↔ a.port ≠ some 0) ∧
        (level.heeded = level ↔ line.logLevel ≠ some "") ∧
        (level.project = level ↔ line.logLevel = none)) ∧
      ∀ name, said world.around.environment.logLevel = some name →
        level.environment = some (.text (Text.upper name)) ∧
          ((∀ c ∈ name.toList, c.toNat < 128) →
            SameLevel (.text (Text.upper name)) (.text name)) := by
  obtain ⟨file, asked, hfile, hasked, hhostValue, hportValue, hlevelValue⟩ :=
    Manager.values_of_settings world.around loaded
  refine ⟨file, asked, hfile, hasked, ?_⟩
  intro host port level
  have hhost : preferred (a.host.map Data.text) settings.server.host = host.heeded.chosen := by
    rw [hhostValue]
    exact host.preferred_eq
  have hport : preferred (a.port.map Data.int) settings.server.port = port.heeded.chosen := by
    rw [hportValue]
    exact port.preferred_eq
  have hlevel : startLevel line settings = level.heeded.chosen := by
    rw [startLevel, hlevelValue]
    exact level.preferred_eq
  -- The server's own level is that of the settings, which no option has changed.
  have hproject : settings.logLevel = level.project.chosen := hlevelValue
  refine ⟨hlevel, fun served => ?_, ⟨hostSources_heeded_iff, portSources_heeded_iff,
    levelSources_heeded_iff, levelSources_project_iff⟩, fun name hsaid => ⟨?_, sameLevel_upper⟩⟩
  · rw [Line.serves_iff task loaded hhost hport, hlevel, hproject]
  · simp only [level, levelSources, Environment.levelAsked, hsaid, Option.map_some]

/-! ## A project with a file -/

/-- A file that gives a level and a host. -/
def fileText : String := "log_level: warning\nserver: \x7bhost: h\x7d\n"

/-- What it says. -/
def fileDocument : Data :=
  .mapping [(.text "log_level", .text "warning"),
    (.text "server", .mapping [(.text "host", .text "h")])]

lemma readYaml_fileText : readYaml fileText.toUTF8.toList = .ok fileDocument := by
  have hblocks : File.blocksOf fileText.toUTF8.toList = ([fileText.toList], none) := by cbv
  have htokens : Document.Yaml.tokens (.ofBlocks [fileText.toList] false) =
      ([.blockMapping, .key, .scalar "log_level" .plain, .value, .scalar "warning" .plain,
        .key, .scalar "server" .plain, .value, .flowMapping, .key, .scalar "host" .plain, .value,
        .scalar "h" .plain, .flowMappingEnd, .blockEnd], none) := by decide +kernel
  have hread : Document.Yaml.read (.ofBlocks [fileText.toList] false) = .ok fileDocument := by
    rw [Document.Yaml.read, Document.Yaml.compose, htokens]
    with_unfolding_all rfl
  rw [readYaml, hblocks]
  simp only [Option.isSome_none, hread]
  rfl

/-- The file, and a port in the environment. -/
def withFile : World where
  around :=
    { folder := { files := [({ names := ["snipbox.yaml"] }, fileText.toUTF8.toList)] }
      environment := { port := some "9000" } }

lemma file_withFile : Manager.file {} withFile.around = .ok (some fileDocument) := by
  have hpath : Manager.path {} = { names := ["snipbox.yaml"] } := rfl
  have hread : withFile.around.folder.read { names := ["snipbox.yaml"] }
      = .ok fileText.toUTF8.toList := by
    rfl
  have hthere : withFile.around.folder.contains { names := ["snipbox.yaml"] } = .ok true := by
    rw [File.Folder.contains, hread]
  rw [Manager.file, hpath, hthere, hread]
  simp only [Except.mapError, bind, Except.bind, readYaml_fileText]
  rfl

lemma asks_withFile : withFile.around.environment.Asks { port := some 9000 } := by
  have hread : Number.readInt "9000" = .ok 9000 := by
    rw [Number.readInt_of_digits (by decide) (by simp), if_neg (by decide)]
    rfl
  exact ⟨rfl, asked_of_read (by decide) (by rw [hread]; rfl), rfl⟩

/-- The settings that come of both. -/
def settingsWithFile : Settings where
  server := { host := .text "h", port := .int 9000 }
  logLevel := .text "warning"

lemma settings_withFile : (Manager.settings {} withFile.around).1 = .ok settingsWithFile := by
  have hfirst : Settings.ofDocument fileDocument
      = .ok { server := { host := .text "h" }, logLevel := .text "warning" } := by
    with_unfolding_all rfl
  have hfile : Manager.fileSettings {} withFile.around
      = .ok { server := { host := .text "h" }, logLevel := .text "warning" } := by
    rw [Manager.fileSettings_eq, file_withFile]
    exact hfirst
  rw [Manager.settings_of_asks _ hfile asks_withFile rfl]
  rfl

/-- A command line that asks for a level of the log. -/
def askingForLevel : Line := { logLevel := some "Debug", task := .serve {} }

lemma manager_askingForLevel : askingForLevel.manager = {} := by cbv

/-- The log is set up with the level of the command line. The server gets the host and the level of
the file and the port of the environment. -/
theorem served_by_precedence_of_file :
    Line.read ["--log-level", "Debug", "serve"] = .ok askingForLevel ∧
      (askingForLevel.manager.settings withFile.around).1 = .ok settingsWithFile ∧
      startLevel askingForLevel settingsWithFile = .text "Debug" ∧
      askingForLevel.Serves withFile
        { host := .text "h", port := .int 9000, level := .text "warning" } := by
  have loaded : (askingForLevel.manager.settings withFile.around).1 = .ok settingsWithFile := by
    rw [manager_askingForLevel, settings_withFile]
  obtain ⟨file, port, hfile, hport, hlevel, hserves, -⟩ := served_by_precedence rfl loaded
  rw [manager_askingForLevel, file_withFile] at hfile
  obtain rfl := Except.ok.inj hfile
  obtain rfl := Except.ok.inj (asks_withFile.port.symm.trans hport)
  have hhost : (hostSources {} (some fileDocument)).heeded.chosen = .text "h" := by
    with_unfolding_all rfl
  have hserver : (levelSources askingForLevel withFile.around.environment
      (some fileDocument)).project.chosen = .text "warning" := by
    with_unfolding_all rfl
  have hlower : lowered (.text "warning") = .ok (.text "warning") := by
    rw [lowered, show Text.lower "warning" = "warning" by decide]
  refine ⟨by cbv, loaded, hlevel, (hserves _).mpr ⟨⟨hhost.symm, rfl, ?_⟩, trivial, ?_, ?_, ?_⟩⟩
  · rw [hserver, hlower]
  · rw [hhost]
    rfl
  · decide
  · exact ⟨_, rfl⟩

/-! ## Options that are not heeded -/

/-- The arguments of a server with an empty host and the port zero. -/
def emptyArguments : ServeArguments := { host := some "", port := some 0 }

/-- A command line that asks for such a server, and for a level of the log. -/
def unheeded : Line := { logLevel := some "debug", task := .serve emptyArguments }

/-- The server gets the usual host, port and level, although the command line gives others. -/
theorem served_without_options :
    Line.read ["--log-level", "debug", "serve", "--host", "", "--port", "0"] = .ok unheeded ∧
      unheeded.manager.file {} = .ok none ∧ ({} : Environment).portAsked = .ok none ∧
      unheeded.Serves {} { host := .text "0.0.0.0", port := .int 5000, level := .text "info" } ∧
      (hostSources emptyArguments none).chosen = .text "" ∧
      (portSources emptyArguments none none).chosen = .int 0 ∧
      (levelSources unheeded {} none).chosen = .text "debug" ∧
      lowered (.text "debug") ≠ .ok (.text "info") := by
  have hread : Number.readInt "0" = .ok 0 := by
    rw [Number.readInt_of_digits (by decide) (by simp), if_neg (by decide)]
    rfl
  have hmanager : unheeded.manager = {} := by cbv
  have loaded : (unheeded.manager.settings ({} : World).around).1 = .ok {} := by
    have hfile : Manager.fileSettings {} ({} : World).around = .ok {} := rfl
    have asks : ({} : World).around.environment.Asks {} := ⟨rfl, rfl, rfl⟩
    rw [hmanager, Manager.settings_of_asks _ hfile asks rfl]
    rfl
  refine ⟨Line.read_serve (by with_unfolding_all decide) (by with_unfolding_all decide)
      (by with_unfolding_all decide) hread,
    by rw [hmanager]; rfl, rfl, ?_, rfl, rfl, rfl, ?_⟩
  · refine (Line.serves_iff rfl loaded rfl rfl).mpr ⟨⟨rfl, rfl, ?_⟩, trivial, rfl, ?_, ⟨_, rfl⟩⟩
    · rw [lowered, show Text.lower "INFO" = "info" by decide]
    · decide
  · rw [lowered, show Text.lower "debug" = "debug" by decide]
    simp

end SnippetRunner.Command
