import SnippetRunner.Proofs.Config.Limits
import SnippetRunner.Proofs.Number.Digits

/-!
# What the environment overrides

The environment changes settings in four steps: the deadline is set and the greatest one raised to
it, the port is set, the level of the log is set, and the limits are checked. A step that fails ends
the changes, and takes nothing back.

* `Settings.applyEnvironment_eq` says how far the changes come.
* `environment_overrides` says what they leave behind.
-/

namespace SnippetRunner.Config

/-! ## What the variables ask for -/

/-- What a variable says, if it is set and not empty. -/
def said (setting : Option String) : Option String := setting.filter (· ≠ "")

/-- What a variable asks for, if it says anything. A text that cannot be read is the error. -/
def asked {α : Type} (read? : String → Option α) (setting : Option String) :
    Except String (Option α) :=
  match said setting with
  | none => .ok none
  | some text =>
    match read? text with
    | none => .error text
    | some x => .ok (some x)

/-- New values for settings, for those that get one. -/
structure Overrides where
  deadline : Option Float := none
  port : Option Int := none
  logLevel : Option String := none

namespace Environment

variable (e : Environment)

/-- The deadline that is asked for. -/
def deadlineAsked : Except String (Option Float) := asked Number.readFloat? e.deadline

/-- The port that is asked for. -/
def portAsked : Except String (Option Int) := asked (fun s => (Number.readInt s).toOption) e.port

/-- The level that is asked for. -/
def levelAsked : Option String := (said e.logLevel).map Text.upper

/-- Whether all that is asked for can be read, and comes to these values. -/
structure Asks (o : Overrides) : Prop where
  deadline : e.deadlineAsked = .ok o.deadline
  port : e.portAsked = .ok o.port
  logLevel : e.levelAsked = o.logLevel

end Environment

/-- The greatest deadline after a deadline has been set: this one, if it is above the old one. -/
def raised (maxDeadline : Data) (x : Float) : Data :=
  match maxDeadline.less (.float x) with
  | .ok true => .float x
  | _ => maxDeadline

namespace Settings

/-- Settings with new values. -/
def override (s : Settings) (o : Overrides) : Settings where
  engine :=
    match o.deadline with
    | none => s.engine
    | some x =>
      { s.engine with deadline := .float x, maxDeadline := raised s.engine.maxDeadline x }
  server :=
    match o.port with
    | none => s.server
    | some n => { s.server with port := .int n }
  logLevel :=
    match o.logLevel with
    | none => s.logLevel
    | some level => .text level

/-- Whether the greatest deadline can be compared with the one that is asked for. -/
def compared (s : Settings) : Option Float → Except Fault Unit
  | none => .ok ()
  | some x =>
    match s.engine.maxDeadline.less (.float x) with
    | .error problem => .error (.failed problem)
    | .ok _ => .ok ()

end Settings

/-! ## The steps -/

/-- The fault of a deadline that cannot be read. -/
def deadlineFault (text : String) : Fault :=
  .rejected s!"SNIPBOX_DEADLINE_SECONDS must be a number, got {Text.quoted text}"

/-- The fault of a port that cannot be read. -/
def portFault (text : String) : Fault :=
  .rejected s!"PORT must be an integer, got {Text.quoted text}"

lemma said_of_ne {text : String} (hne : text ≠ "") : said (some text) = some text :=
  Option.filter_some_pos (by simpa using hne)

section Asked

variable {α : Type} {read? : String → Option α} {text : String}

lemma asked_of_read {x : α} (hne : text ≠ "") (hread : read? text = some x) :
    asked read? (some text) = .ok (some x) := by
  simp only [asked, said_of_ne hne, hread]

lemma asked_of_unread (hne : text ≠ "") (hread : read? text = none) :
    asked read? (some text) = .error text := by
  simp only [asked, said_of_ne hne, hread]

end Asked

lemma whenSet_eq (setting : Option String) (change : String → Change Unit) :
    whenSet setting change =
      match said setting with
      | none => pure ()
      | some text => change text := by
  unfold whenSet
  split
  · rfl
  · rfl
  · next text hne =>
    rw [said_of_ne (by simpa using hne)]

lemma setDeadline_run (s : Settings) {text : String} {x : Float}
    (hread : Number.readFloat? text = some x) :
    Id.run ((setDeadline text).run.run s)
      = (s.compared (some x), s.override { deadline := some x }) := by
  -- what is left to do once the deadline is set
  have hset : Id.run ((setDeadline text).run.run s) = Id.run ((show Change Unit from do
      if ← ExceptT.mk (pure ((s.engine.maxDeadline.less (.float x)).mapError .failed)) then
        modify fun c => { c with engine := { c.engine with maxDeadline := .float x } }).run.run
          { s with engine := { s.engine with deadline := .float x } }) := by
    simp only [setDeadline, hread]
    rfl
  simp only [hset, Settings.compared, Settings.override, raised]
  rcases s.engine.maxDeadline.less (.float x) with problem | _ | _ <;> rfl

section Steps

variable (s : Settings) (e : Environment)

lemma deadline_run :
    Id.run ((whenSet e.deadline setDeadline).run.run s) =
      match e.deadlineAsked with
      | .error text => (.error (deadlineFault text), s)
      | .ok x => (s.compared x, s.override { deadline := x }) := by
  rw [whenSet_eq, Environment.deadlineAsked, asked]
  rcases said e.deadline with _ | text
  · rfl
  · rcases hread : Number.readFloat? text with _ | x
    · simp only [setDeadline, hread]
      rfl
    · simp only [setDeadline_run s hread, hread]

lemma port_run :
    Id.run ((whenSet e.port setPort).run.run s) =
      match e.portAsked with
      | .error text => (.error (portFault text), s)
      | .ok n => (.ok (), s.override { port := n }) := by
  rw [whenSet_eq, Environment.portAsked, asked]
  rcases said e.port with _ | text
  · rfl
  · rcases hread : Number.readInt text with fault | n <;> simp only [setPort, hread] <;> rfl

lemma logLevel_run :
    Id.run ((whenSet e.logLevel setLogLevel).run.run s)
      = (.ok (), s.override { logLevel := e.levelAsked }) := by
  rw [whenSet_eq, Environment.levelAsked]
  rcases said e.logLevel with _ | text <;> rfl

/-- New values that are set one after another are set together. -/
lemma Settings.override_override (o : Overrides) :
    ((s.override { deadline := o.deadline }).override { port := o.port }).override
      { logLevel := o.logLevel } = s.override o := by
  rcases o with ⟨_ | x, _ | n, _ | level⟩ <;> rfl

/-- How far the changes come. -/
lemma Settings.applyEnvironment_eq :
    s.applyEnvironment e =
      match e.deadlineAsked with
      | .error text => (.error (deadlineFault text), s)
      | .ok x =>
        match s.compared x with
        | .error fault => (.error fault, s.override { deadline := x })
        | .ok _ =>
          match e.portAsked with
          | .error text => (.error (portFault text), s.override { deadline := x })
          | .ok n =>
            ((s.override ⟨x, n, e.levelAsked⟩).engine.validate,
              s.override ⟨x, n, e.levelAsked⟩) := by
  rw [Settings.applyEnvironment, Environment.change, Change.run_bind, deadline_run]
  rcases e.deadlineAsked with text | x
  · rfl
  rcases hcompared : s.compared x with fault | _ <;> simp only [hcompared]
  rw [Change.run_bind, port_run]
  rcases e.portAsked with text | n
  · rfl
  simp only [Change.run_bind, logLevel_run]
  rw [s.override_override ⟨x, n, e.levelAsked⟩]
  rfl

end Steps

/-! ## The greatest deadline -/

section Raised

variable {maxDeadline : Data} {x : Float}

lemma raised_of_less (hless : maxDeadline.less (.float x) = .ok true) :
    raised maxDeadline x = .float x := by
  rw [raised, hless]

lemma raised_of_not_less (hless : maxDeadline.less (.float x) = .ok false) :
    raised maxDeadline x = maxDeadline := by
  rw [raised, hless]

lemma raised_raised (maxDeadline : Data) (x : Float) :
    raised (raised maxDeadline x) x = raised maxDeadline x := by
  rcases hless : maxDeadline.less (.float x) with problem | _ | _
  · have hkept : raised maxDeadline x = maxDeadline := by rw [raised, hless]
    rw [hkept, hkept]
  · rw [raised_of_not_less hless, raised_of_not_less hless]
  · rw [raised_of_less hless, raised_of_not_less (Data.less_self (a := .float x) rfl)]

/-- Of two deadlines with amounts the larger one is the greatest deadline. -/
lemma amount_raised {a b : EReal} (ha : maxDeadline.amount? = some a)
    (hb : (Data.float x).amount? = some b) :
    (raised maxDeadline x).amount? = some (max a b) := by
  obtain ⟨p, hp, hpa⟩ := Option.bind_eq_some_iff.mp ha
  have hx : (Data.float x).numeric? = some (.float x) := rfl
  obtain ⟨answer, hless, hiff⟩ := Data.less_of_numeric hp hx
  have hxb : (Data.Numeric.float x).amount? = some b := hb
  simp only [hpa, hxb, Option.some.injEq, exists_eq_left', ↓existsAndEq, true_and] at hiff
  cases answer with
  | true => rw [raised_of_less hless, hb, max_eq_right (hiff.mp rfl).le]
  | false =>
    have hle : b ≤ a := not_lt.mp fun hlt => nomatch hiff.mpr hlt
    rw [raised_of_not_less hless, ha, max_eq_left hle]

end Raised

/-! ## What is left behind -/

namespace Settings

variable {s : Settings} {e : Environment} {o : Overrides}

lemma override_self : (s.override o).override o = s.override o := by
  rcases o with ⟨_ | x, _ | n, _ | level⟩ <;> simp only [override, raised_raised]

/-- In limits that pass the checks the greatest deadline can be compared with the one that is asked
for, and could be before it was set. -/
lemma compared_of_valid (hvalid : (s.override o).engine.validate = .ok ()) :
    s.compared o.deadline = .ok () ∧ (s.override o).compared o.deadline = .ok () := by
  obtain ⟨-, hless, -⟩ := EngineSettings.validate_eq_ok hvalid
  rcases o with ⟨_ | x, port, logLevel⟩
  · exact ⟨rfl, rfl⟩
  · have hnew : (raised s.engine.maxDeadline x).less (.float x) = .ok false := hless
    have hafter : (s.override ⟨some x, port, logLevel⟩).compared (some x) = .ok () := by
      have hraised : (s.override ⟨some x, port, logLevel⟩).engine.maxDeadline
          = raised s.engine.maxDeadline x := rfl
      rw [compared, hraised, hnew]
    refine ⟨?_, hafter⟩
    rcases hold : s.engine.maxDeadline.less (.float x) with problem | answer
    · rw [raised, hold, hold] at hnew
      cases hnew
    · rw [compared, hold]

lemma compared_ne_rejected (x : Option Float) (message : String) :
    s.compared x ≠ .error (.rejected message) := by
  cases x with
  | none => exact nofun
  | some x =>
    rw [compared]
    rcases s.engine.maxDeadline.less (.float x) with problem | answer <;> exact nofun

/-- All changes are made if all can be read; then the limits are checked. -/
lemma applyEnvironment_of_asks (asks : e.Asks o) (hcompared : s.compared o.deadline = .ok ()) :
    s.applyEnvironment e = ((s.override o).engine.validate, s.override o) := by
  rw [applyEnvironment_eq, asks.deadline, asks.port, asks.logLevel]
  simp only [hcompared]

/-- The deadline is changed, and a port that cannot be read ends the changes. -/
lemma applyEnvironment_of_port {x : Option Float} {text : String}
    (hdeadline : e.deadlineAsked = .ok x) (hcompared : s.compared x = .ok ())
    (hport : e.portAsked = .error text) :
    s.applyEnvironment e = (.error (portFault text), s.override { deadline := x }) := by
  rw [applyEnvironment_eq, hdeadline]
  simp only [hcompared, hport]

/-- Changes that are made are all that the environment asks for. -/
lemma exists_asks {s' : Settings} (happlied : s.applyEnvironment e = (.ok (), s')) :
    ∃ o, e.Asks o ∧ s' = s.override o := by
  rw [applyEnvironment_eq] at happlied
  split at happlied
  · cases happlied
  split at happlied
  · cases happlied
  split at happlied
  · cases happlied
  · next x hdeadline _ _ _ _ n hport =>
    exact ⟨⟨x, n, e.levelAsked⟩, ⟨hdeadline, hport, rfl⟩, (congrArg Prod.snd happlied).symm⟩

/-- New values stand in the place of the old ones. -/
lemma override_values (s : Settings) (o : Overrides) :
    (s.override o).server.host = s.server.host ∧
      (s.override o).server.port = (o.port.map Data.int).getD s.server.port ∧
      (s.override o).logLevel = (o.logLevel.map Data.text).getD s.logLevel := by
  rcases o with ⟨x, _ | n, _ | level⟩ <;> exact ⟨rfl, rfl, rfl⟩

end Settings

/-- What an environment does to settings.

The changes are accepted if all that the environment asks for can be read and the limits pass the
checks with it. Then the new values are set and nothing else is changed, the greatest deadline is the
larger one of what it was and the new deadline, and making the same changes again changes nothing.

Changes that are refused leave the settings as they were where the deadline cannot be read. Where the
port cannot be read they leave the new deadline, if there is one, and where the limits do not pass
the checks they leave all of the new values. -/
theorem environment_overrides (s : Settings) (e : Environment) :
    (∀ s', s.applyEnvironment e = (.ok (), s') ↔
      ∃ o, e.Asks o ∧ s' = s.override o ∧ s'.engine.validate = .ok ()) ∧
    (∀ o, e.Asks o → (s.override o).engine.validate = .ok () →
      (s.override o).applyEnvironment e = (.ok (), s.override o) ∧
      ∀ x a b, o.deadline = some x → s.engine.maxDeadline.amount? = some a →
        (Data.float x).amount? = some b →
          (s.override o).engine.maxDeadline.amount? = some (max a b)) ∧
    ∀ message s', s.applyEnvironment e = (.error (.rejected message), s') →
      (∃ text, e.deadlineAsked = .error text ∧ .rejected message = deadlineFault text ∧ s' = s) ∨
      (∃ x text, e.deadlineAsked = .ok x ∧ e.portAsked = .error text ∧
        .rejected message = portFault text ∧ s' = s.override { deadline := x }) ∨
      ∃ o, e.Asks o ∧ s'.engine.validate = .error (.rejected message) ∧ s' = s.override o := by
  refine ⟨fun s' => ⟨fun happlied => ?_, ?_⟩, fun o asks hvalid => ⟨?_, ?_⟩,
    fun message s' hrefused => ?_⟩
  · rw [Settings.applyEnvironment_eq] at happlied
    rcases hdeadline : e.deadlineAsked with text | x <;> rw [hdeadline] at happlied
    · cases happlied
    rcases hcompared : s.compared x with fault | _ <;> simp only [hcompared] at happlied
    · cases happlied
    rcases hport : e.portAsked with text | n <;> rw [hport] at happlied
    · cases happlied
    rw [Prod.mk.injEq] at happlied
    obtain ⟨hvalid, rfl⟩ := happlied
    exact ⟨_, ⟨hdeadline, hport, rfl⟩, rfl, hvalid⟩
  · rintro ⟨o, asks, rfl, hvalid⟩
    rw [Settings.applyEnvironment_of_asks asks (Settings.compared_of_valid hvalid).1, hvalid]
  · rw [Settings.applyEnvironment_of_asks asks (Settings.compared_of_valid hvalid).2,
      Settings.override_self, hvalid]
  · intro x a b hx ha hb
    rcases o with ⟨_ | x, port, logLevel⟩
    · cases hx
    · obtain rfl := Option.some.inj hx
      exact amount_raised ha hb
  · rw [Settings.applyEnvironment_eq] at hrefused
    rcases hdeadline : e.deadlineAsked with text | x <;> rw [hdeadline] at hrefused
    · rw [Prod.mk.injEq, Except.error.injEq] at hrefused
      exact Or.inl ⟨text, rfl, hrefused.1.symm, hrefused.2.symm⟩
    rcases hcompared : s.compared x with fault | _ <;> simp only [hcompared] at hrefused
    · rw [Prod.mk.injEq, Except.error.injEq] at hrefused
      rw [hrefused.1] at hcompared
      exact (Settings.compared_ne_rejected x message hcompared).elim
    rcases hport : e.portAsked with text | n <;> rw [hport] at hrefused
    · rw [Prod.mk.injEq, Except.error.injEq] at hrefused
      exact Or.inr (Or.inl ⟨x, text, rfl, rfl, hrefused.1.symm, hrefused.2.symm⟩)
    · rw [Prod.mk.injEq] at hrefused
      obtain ⟨hinvalid, rfl⟩ := hrefused
      exact Or.inr (Or.inr ⟨_, ⟨hdeadline, hport, rfl⟩, hinvalid, rfl⟩)

/-! ## A port that cannot be read -/

lemma readFloat_five : Number.readFloat? "5" = some 5.0 := by
  rw [Number.readFloat?, Number.trimmed_of_plain (by cbv)]
  rfl

lemma readInt_letters : Number.readInt "abc" = .error .malformed := by
  rw [Number.readInt, Number.trimmed_of_plain (by cbv)]
  rfl

/-- A new deadline, and a port that is none. -/
def halfReadable : Environment := { deadline := some "5", port := some "abc" }

/-- The new deadline stays although the port that comes with it is refused. -/
theorem environment_overrides_in_part :
    ({} : Settings).applyEnvironment halfReadable
        = (.error (portFault "abc"), { engine := { deadline := .float 5.0 } }) ∧
      ({ engine := { deadline := .float 5.0 } } : Settings) ≠ {} := by
  have hdeadline : halfReadable.deadlineAsked = .ok (some 5.0) :=
    asked_of_read (by decide) readFloat_five
  have hport : halfReadable.portAsked = .error "abc" :=
    asked_of_unread (by decide) (by rw [readInt_letters]; rfl)
  have hless : ({} : Settings).engine.maxDeadline.less (.float 5.0) = .ok false := rfl
  have hcompared : ({} : Settings).compared (some 5.0) = .ok () := by
    rw [Settings.compared, hless]
  have hafter : ({} : Settings).override { deadline := some 5.0 }
      = { engine := { deadline := .float 5.0 } } := by
    simp only [Settings.override, raised_of_not_less hless]
  constructor
  · rw [Settings.applyEnvironment_of_port hdeadline hcompared hport, hafter]
  · intro hsame
    have hfloat : Data.float 5.0 = .float 1.5 := congrArg (·.engine.deadline) hsame
    exact absurd (Data.float.inj hfloat) (by decide)

end SnippetRunner.Config
