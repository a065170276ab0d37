import SnippetRunner.Proofs.Config.Limits

/-!
# What documents are taken for settings

A document is any value. It is read by the names of its entries, and then the limits are checked.
Reading refuses whatever is no setting. The checks compare the limits, and show one that is not
positive; a limit that cannot be compared or shown breaks them.

* `EngineSettings.Breaks` says which limits break the checks, and on what.
* `documents_read` says which documents give settings, and which ones end with another failure than
  a refusal.
* `Settings.ofFile_values` says which value a document leaves a setting of the server or the level of
  the log with.
-/

namespace SnippetRunner.Config

/-! ## One limit that has to be positive -/

/-- The check of such a limit; `complaint` is said of one that is not. -/
def checkPositive (v : Data) (complaint : String) : Except Fault Unit := do
  if ← v.notPositive.mapError .failed then
    let given ← v.print.mapError .failed
    throw (.rejected (complaint ++ given))

/-- What the check breaks on: a value that is no number, and a number that is not positive and has
too many digits to be shown. -/
inductive Unfit (v : Data) : Problem → Prop
  | noNumber (hnone : v.numeric? = none) : Unfit v (Data.orderless "<=" v (.int 0))
  | tooLong (low : v.notPositive = .ok true) (long : v.isTooLong) :
    Unfit v ⟨"ValueError", Number.lengthComplaint ""⟩

section Limit

variable {v : Data} {complaint : String} {problem : Problem}

lemma print_eq_error_iff :
    v.print = .error problem ↔
      v.isTooLong ∧ problem = ⟨"ValueError", Number.lengthComplaint ""⟩ := by
  unfold Data.print
  cases v.isTooLong <;> simp [eq_comm]

lemma checkPositive_eq_ok_iff : checkPositive v complaint = .ok () ↔ v.notPositive = .ok false := by
  rw [checkPositive]
  rcases v.notPositive with p | _ | _
  · exact ⟨nofun, nofun⟩
  · exact ⟨fun _ => rfl, fun _ => rfl⟩
  · rcases v.print with p | text <;> exact ⟨nofun, nofun⟩

lemma checkPositive_eq_failed_iff :
    checkPositive v complaint = .error (.failed problem) ↔ Unfit v problem := by
  constructor
  · intro h
    rw [checkPositive] at h
    rcases hlow : v.notPositive with p | _ | _ <;> rw [hlow] at h
    · obtain ⟨hnone, rfl⟩ := Data.notPositive_eq_error_iff.mp hlow
      cases h
      exact .noNumber hnone
    · cases h
    · rcases hprint : v.print with p | text <;> rw [hprint] at h
      · obtain ⟨long, rfl⟩ := print_eq_error_iff.mp hprint
        cases h
        exact .tooLong hlow long
      · cases h
  · rintro (hnone | ⟨low, long⟩) <;> rw [checkPositive]
    · rw [Data.notPositive_eq_error_iff.mpr ⟨hnone, rfl⟩]
      rfl
    · rw [low, print_eq_error_iff.mpr ⟨long, rfl⟩]
      rfl

end Limit

/-! ## All limits -/

namespace EngineSettings

variable {s : EngineSettings} {problem : Problem}

/-- The checks are two such checks, and one of the order of the deadlines between them. -/
lemma validate_eq (s : EngineSettings) : s.validate = (do
    checkPositive s.deadline "engine.deadline_seconds must be positive, got "
    if ← (s.maxDeadline.less s.deadline).mapError .failed then
      throw (.rejected "engine.max_deadline_seconds must be >= engine.deadline_seconds")
    checkPositive s.maxOutput "engine.max_output_chars must be positive, got ") := by
  unfold validate checkPositive
  rcases s.deadline.notPositive with p | _ | _
  · rfl
  · rcases s.maxDeadline.less s.deadline with p | _ | _
    · rfl
    · rcases s.maxOutput.notPositive with p | _ | _
      · rfl
      · rfl
      · rcases s.maxOutput.print with p | text <;> rfl
    · rfl
  · rcases s.deadline.print with p | text <;> rfl

/-- What the checks break on: a deadline or a cap that is unfit, or a greatest deadline that is no
number. What is checked before it passes. -/
inductive Breaks (s : EngineSettings) : Problem → Prop
  | deadline {problem : Problem} (unfit : Unfit s.deadline problem) : s.Breaks problem
  | maxDeadline (above : s.deadline.notPositive = .ok false) (hnone : s.maxDeadline.numeric? = none) :
    s.Breaks (Data.orderless "<" s.maxDeadline s.deadline)
  | maxOutput {problem : Problem} (above : s.deadline.notPositive = .ok false)
      (ordered : s.maxDeadline.less s.deadline = .ok false) (unfit : Unfit s.maxOutput problem) :
    s.Breaks problem

lemma validate_eq_failed_iff : s.validate = .error (.failed problem) ↔ s.Breaks problem := by
  rw [validate_eq]
  constructor
  · intro h
    rcases hdeadline : checkPositive s.deadline "engine.deadline_seconds must be positive, got "
      with fault | _ <;> rw [hdeadline] at h
    · cases h
      exact .deadline (checkPositive_eq_failed_iff.mp hdeadline)
    have above := checkPositive_eq_ok_iff.mp hdeadline
    obtain ⟨a, ha, -⟩ := Data.notPositive_eq_false_iff.mp above
    rcases hless : s.maxDeadline.less s.deadline with p | _ | _ <;> rw [hless] at h
    · obtain ⟨hnone, rfl⟩ := (Data.less_eq_error_iff ha).mp hless
      cases h
      exact .maxDeadline above hnone
    · exact .maxOutput above hless (checkPositive_eq_failed_iff.mp h)
    · cases h
  · rintro (unfit | ⟨above, hnone⟩ | ⟨above, ordered, unfit⟩)
    · rw [checkPositive_eq_failed_iff.mpr unfit]
      rfl
    · obtain ⟨a, ha, -⟩ := Data.notPositive_eq_false_iff.mp above
      rw [checkPositive_eq_ok_iff.mpr above, (Data.less_eq_error_iff ha).mpr ⟨hnone, rfl⟩]
      rfl
    · rw [checkPositive_eq_ok_iff.mpr above, ordered]
      exact checkPositive_eq_failed_iff.mpr unfit

end EngineSettings

/-! ## Documents -/

variable {entries : List (Data × Data)} {s : Settings} {problem : Problem}

/-- Reading entries ends with settings or with a refusal. -/
lemma ofEntries_ne_failed : Settings.ofEntries entries ≠ .error (.failed problem) := by
  have hrefused : ∀ (read : Except String Settings) (tell : String → String),
      read.mapError (fun complaint => Fault.rejected (tell complaint)) ≠ .error (.failed problem) := by
    rintro (complaint | s) tell <;> exact nofun
  unfold Settings.ofEntries
  split
  · exact hrefused _ fun complaint => s!"Unknown configuration key: {complaint}"
  · exact nofun

/-- A mapping gives the settings that its entries are read as, if these pass the checks. -/
lemma ofData_mapping_eq_ok_iff :
    Settings.ofData (.mapping entries) = .ok s ↔
      Settings.ofEntries (Data.entryParts entries) = .ok s ∧ s.engine.validate = .ok () := by
  rw [Settings.ofData]
  rcases hread : Settings.ofEntries (Data.entryParts entries) with fault | first
  · constructor
    · intro h
      cases h
    · rintro ⟨h, -⟩
      cases h
  simp only [bind, Except.bind, pure, Except.pure, Except.ok.injEq]
  rcases hvalid : first.engine.validate with fault | _
  · constructor
    · intro h
      cases h
    · rintro ⟨rfl, h⟩
      rw [hvalid] at h
      cases h
  · simp only [Except.ok.injEq]
    constructor
    · rintro rfl
      exact ⟨rfl, hvalid⟩
    · exact And.left

/-- It fails otherwise than by a refusal if these break the checks. -/
lemma ofData_mapping_eq_failed_iff :
    Settings.ofData (.mapping entries) = .error (.failed problem) ↔
      ∃ s, Settings.ofEntries (Data.entryParts entries) = .ok s ∧ s.engine.Breaks problem := by
  rw [Settings.ofData]
  rcases hread : Settings.ofEntries (Data.entryParts entries) with fault | first
  · refine ⟨fun h => ?_, ?_⟩
    · cases h
      exact absurd hread ofEntries_ne_failed
    · rintro ⟨s, h, -⟩
      cases h
  simp only [bind, Except.bind, pure, Except.pure, Except.ok.injEq, exists_eq_left',
    ← EngineSettings.validate_eq_failed_iff]
  rcases first.engine.validate with fault | _
  · simp only [Except.error.injEq]
  · constructor <;> intro h <;> cases h

lemma ofDocument_of_false {v : Data} (hfalse : v.isTrue = false) :
    Settings.ofDocument v = .ok {} := by
  rw [Settings.ofDocument, hfalse]
  rfl

lemma ofDocument_mapping (entries : List (Data × Data)) :
    Settings.ofDocument (.mapping entries) = Settings.ofData (.mapping entries) := by
  cases entries <;> rfl

lemma ofDocument_of_foreign {v : Data} (htrue : v.isTrue = true)
    (hforeign : ∀ entries, v ≠ .mapping entries) :
    Settings.ofDocument v = .error (.rejected "Configuration root must be a mapping") := by
  rw [Settings.ofDocument, htrue, if_pos rfl, Settings.ofData]
  · rfl
  · exact hforeign

/-- What documents are taken for.

A document that counts as false gives the usual settings. Any other one gives settings if it is a
mapping, its entries are read as these settings, and their limits pass the checks. It fails otherwise
than by a refusal if it is a mapping, its entries are read as settings, and their limits break the
checks. All others are refused, and so is whatever counts as true and is no mapping. -/
theorem documents_read (v : Data) :
    (∀ s, Settings.ofDocument v = .ok s ↔
      (v.isTrue = false ∧ s = {}) ∨
      ∃ entries, v = .mapping entries ∧ Settings.ofEntries (Data.entryParts entries) = .ok s ∧
        s.engine.validate = .ok ()) ∧
    (∀ problem, Settings.ofDocument v = .error (.failed problem) ↔
      ∃ entries s, v = .mapping entries ∧ Settings.ofEntries (Data.entryParts entries) = .ok s ∧
        s.engine.Breaks problem) ∧
    (v.isTrue = true → (∀ entries, v ≠ .mapping entries) →
      Settings.ofDocument v = .error (.rejected "Configuration root must be a mapping")) := by
  by_cases hmapping : ∃ entries, v = .mapping entries
  · obtain ⟨entries, rfl⟩ := hmapping
    refine ⟨fun s => ?_, fun problem => ?_, fun _ hforeign => (hforeign entries rfl).elim⟩
    · rw [ofDocument_mapping, ofData_mapping_eq_ok_iff]
      constructor
      · exact fun h => Or.inr ⟨entries, rfl, h⟩
      · rintro (⟨hfalse, rfl⟩ | ⟨entries', hsame, h⟩)
        · obtain rfl : entries = [] := by simpa [Data.isTrue] using hfalse
          exact ⟨rfl, rfl⟩
        · rwa [Data.mapping.inj hsame]
    · rw [ofDocument_mapping, ofData_mapping_eq_failed_iff]
      constructor
      · rintro ⟨s, h⟩
        exact ⟨entries, s, rfl, h⟩
      · rintro ⟨entries', s, hsame, h⟩
        rw [Data.mapping.inj hsame]
        exact ⟨s, h⟩
  · have hforeign : ∀ entries, v ≠ .mapping entries := fun entries h => hmapping ⟨entries, h⟩
    refine ⟨fun s => ?_, fun problem => ?_, fun htrue _ => ofDocument_of_foreign htrue hforeign⟩
    · cases htrue : v.isTrue with
      | false => simp [ofDocument_of_false htrue, hforeign, eq_comm]
      | true => simp [ofDocument_of_foreign htrue hforeign, hforeign]
    · cases htrue : v.isTrue with
      | false => simp [ofDocument_of_false htrue, hforeign]
      | true => simp [ofDocument_of_foreign htrue hforeign, hforeign]

/-- A deadline that is a text breaks the checks, and an empty list gives the usual settings. -/
theorem documents_read_unlike_settings :
    Settings.ofDocument (oneLimit "deadline_seconds" (.text "soon"))
      = .error (.failed
          ⟨"TypeError", "'<=' not supported between instances of 'str' and 'int'"⟩) ∧
    Settings.ofDocument (.list []) = .ok {} := by
  refine ⟨?_, rfl⟩
  have hentries := @ofEntries_oneLimit "deadline_seconds" (.text "soon") _ rfl rfl rfl
  rw [oneLimit, ofDocument_mapping]
  exact ofData_mapping_eq_failed_iff.mpr ⟨_, hentries, .deadline (.noNumber rfl)⟩

/-! ## Entries by name -/

/-- The value of an entry, if it has a name. -/
def named? (name : String) : Data × Data → Option Data
  | (.text id, v) => if id = name then some v else none
  | _ => none

/-- The value that entries give to a name. A mapping has one entry of a name; of several the last
one counts. -/
def valueOf (name : String) (entries : List (Data × Data)) : Option Data :=
  entries.reverse.findSome? (named? name)

section Entries

variable {name : String}

lemma valueOf_cons (entry : Data × Data) (rest : List (Data × Data)) :
    valueOf name (entry :: rest) = (valueOf name rest).or (named? name entry) := by
  rw [valueOf, List.reverse_cons, List.findSome?_append, List.findSome?_singleton]
  rfl

/-- Without the entries of another name the value is the same. -/
lemma valueOf_erase {id : String} (hne : id ≠ name) (entries : List (Data × Data)) :
    valueOf name (Data.erase entries (.text id)) = valueOf name entries := by
  induction entries with
  | nil => rfl
  | cons entry rest ih =>
    rw [Data.erase, List.filter_cons]
    split
    · rw [valueOf_cons, valueOf_cons, ← ih]
      rfl
    · next herased =>
      -- what is left out has the other name
      have hnone : named? name entry = none := by
        obtain ⟨key, v⟩ := entry
        cases key with
        | text s =>
          have hsame : s = id := by simpa [same_text] using herased
          rw [named?, if_neg (hsame ▸ hne)]
        | _ => rfl
      rw [valueOf_cons, hnone, Option.or_none, ← ih]
      rfl

end Entries

/-! ## Entries that are read -/

namespace Reading

variable {α : Type} {r : Reading α} {entries : List (Data × Data)} {s s' : α}

/-- An entry that is read has a name that is known. -/
lemma readEntries_cons_eq_ok {entry : Data × Data}
    (hread : r.readEntries (entry :: entries) s = .ok s') :
    ∃ id v t, entry = (.text id, v) ∧ r.set? id v s = some t ∧ r.readEntries entries t = .ok s' := by
  unfold readEntries at hread
  split at hread
  · next hnil => cases hnil
  · cases hread
  · next id v rest _ hcons =>
    cases hcons
    split at hread
    · next t hset => exact ⟨id, v, t, rfl, hset, hread⟩
    · cases hread
  · cases hread

/-- Whether entries of a name, and no other ones, change a part of what is read, to their value. -/
def Stores (r : Reading α) (name : String) (part : α → Data) : Prop :=
  ∀ id v s s', r.set? id v s = some s' → part s' = if id = name then v else part s

/-- Entries that are read leave such a part with the value of its name. -/
lemma Stores.readEntries {name : String} {part : α → Data} (stores : r.Stores name part)
    (hread : r.readEntries entries s = .ok s') :
    part s' = (valueOf name entries).getD (part s) := by
  induction entries generalizing s with
  | nil =>
    cases hread
    rfl
  | cons entry rest ih =>
    obtain ⟨id, v, t, rfl, hset, hrest⟩ := readEntries_cons_eq_ok hread
    rw [ih hrest, stores id v s t hset, valueOf_cons, named?]
    cases valueOf name rest with
    | none => split <;> rfl
    | some w => rfl

/-- Entries that are read leave a part as it is that none of them changes. -/
lemma readEntries_kept {β : Type} {part : α → β}
    (hkept : ∀ id v s s', r.set? id v s = some s' → part s' = part s)
    (hread : r.readEntries entries s = .ok s') : part s' = part s := by
  induction entries generalizing s with
  | nil =>
    cases hread
    rfl
  | cons entry rest ih =>
    obtain ⟨id, v, t, -, hset, hrest⟩ := readEntries_cons_eq_ok hread
    rw [ih hrest, hkept id v s t hset]

lemma readEntries_of_read (hread : r.read entries s = .ok s') : r.readEntries entries s = .ok s' := by
  unfold read at hread
  split at hread
  · exact hread
  · cases hread

end Reading

/-! ## Documents -/

lemma serverReading_stores :
    serverReading.Stores "host" (·.host) ∧ serverReading.Stores "port" (·.port) := by
  constructor
  all_goals
    intro id v s s' hset
    simp only [serverReading] at hset
    split at hset <;> cases hset <;> rfl

lemma topReading_logLevel : topReading.Stores "log_level" (·.logLevel) := by
  intro id v s s' hset
  simp only [topReading] at hset
  split at hset <;> cases hset
  rfl

lemma topReading_server (id : String) (v : Data) (s s' : Settings)
    (hset : topReading.set? id v s = some s') : s'.server = s.server := by
  simp only [topReading] at hset
  split at hset <;> cases hset
  rfl

/-- The entries that a document has at its top. -/
def entriesOf : Data → List (Data × Data)
  | .mapping entries => Data.entryParts entries
  | _ => []

/-- The value that a file gives to a name outside of the sections, if there is a file. -/
def topValue (name : String) (file : Option Data) : Option Data :=
  file.bind fun document => valueOf name (entriesOf document)

/-- The value that a file gives to a name in the section of the server, if there is a file. -/
def serverValue (name : String) (file : Option Data) : Option Data :=
  file.bind fun document => (section? (entriesOf document) "server").bind (valueOf name)

namespace Settings

variable {s : Settings}

/-- The settings of a file; without one they are the usual ones. -/
def ofFile : Option Data → Except Fault Settings
  | none => .ok {}
  | some document => ofDocument document

/-- Settings that are read from entries are read from those of each section, and from the others. -/
lemma exists_of_ofEntries {entries : List (Data × Data)} (hread : ofEntries entries = .ok s) :
    ∃ engine server inner, section? entries "server" = some inner ∧
      serverReading.readEntries inner {} = .ok server ∧
      topReading.readEntries (Data.erase (Data.erase entries (.text "engine")) (.text "server"))
        { engine, server } = .ok s := by
  unfold ofEntries at hread
  split at hread
  · next outer inner _ hinner =>
    rcases hengine : engineReading.read outer {} with complaint | engine <;>
      simp only [hengine] at hread
    · cases hread
    rcases hserver : serverReading.read inner {} with complaint | server <;>
      simp only [hserver] at hread
    · cases hread
    rcases htop : topReading.read
        (Data.erase (Data.erase entries (.text "engine")) (.text "server")) { engine, server }
      with complaint | all <;> simp only [bind, Except.bind, htop] at hread
    · cases hread
    cases hread
    exact ⟨engine, server, inner, hinner, Reading.readEntries_of_read hserver,
      Reading.readEntries_of_read htop⟩
  · cases hread

/-- What a file leaves the settings of the server and the level of the log with. -/
lemma ofFile_values {file : Option Data} (hread : ofFile file = .ok s) :
    s.server.host = (serverValue "host" file).getD (.text "0.0.0.0") ∧
      s.server.port = (serverValue "port" file).getD (.int 5000) ∧
      s.logLevel = (topValue "log_level" file).getD (.text "INFO") := by
  cases file with
  | none =>
    cases hread
    exact ⟨rfl, rfl, rfl⟩
  | some document =>
    by_cases hmapping : ∃ entries, document = .mapping entries
    · obtain ⟨entries, rfl⟩ := hmapping
      rw [ofFile, ofDocument_mapping] at hread
      obtain ⟨engine, server, inner, hinner, hserver, htop⟩ :=
        exists_of_ofEntries (ofData_mapping_eq_ok_iff.mp hread).1
      have hkept : s.server = server := Reading.readEntries_kept topReading_server htop
      have hlevel := topReading_logLevel.readEntries htop
      rw [valueOf_erase (by decide), valueOf_erase (by decide)] at hlevel
      refine ⟨?_, ?_, hlevel⟩
      · rw [hkept, serverReading_stores.1.readEntries hserver, serverValue, Option.bind_some,
          entriesOf, hinner, Option.bind_some]
      · rw [hkept, serverReading_stores.2.readEntries hserver, serverValue, Option.bind_some,
          entriesOf, hinner, Option.bind_some]
    · -- a document that is no mapping gives settings only if it counts as false
      have hforeign : ∀ entries, document ≠ .mapping entries := fun entries h =>
        hmapping ⟨entries, h⟩
      have hnothing : entriesOf document = [] := by
        cases document with
        | mapping entries => exact (hforeign entries rfl).elim
        | _ => rfl
      cases htrue : document.isTrue with
      | true =>
        rw [ofFile, ofDocument_of_foreign htrue hforeign] at hread
        cases hread
      | false =>
        rw [ofFile, ofDocument_of_false htrue] at hread
        cases hread
        simp only [serverValue, topValue, Option.bind_some, hnothing]
        exact ⟨rfl, rfl, rfl⟩

end Settings

end SnippetRunner.Config
