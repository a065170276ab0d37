import SnippetRunner.Data
import SnippetRunner.Text.CodeRanges

/-!
# Arguments of a command

Reads the words of a command line: options, each with a value or without, and what stands between
them. A long option may be cut short as long as no other one begins so, and a value may follow its
option after an equals sign, or directly if the option is a single letter. After two hyphens there
are no more options.
-/

namespace SnippetRunner.Command

/-- Why a command line is not carried out. -/
inductive Stop where
  /-- It is not understood by the command with a name. -/
  | usage (program message : String)
  /-- It asks for help. -/
  | help (program : String)
  /-- Reading it fails. -/
  | failed (problem : Problem)
  deriving Repr, DecidableEq

/-- What an option does to what was read so far. -/
inductive Action (ω : Type) where
  | help
  | flag (set : ω → ω)
  /-- Takes a value, which may be of the wrong kind. -/
  | value (read : String → Except String (ω → ω))

/-- An option with its names. -/
structure Switch (ω : Type) where
  names : List String
  action : Action ω

/-- What stands between the options. -/
inductive Positional (ω : Type) where
  | nothing
  /-- One word. -/
  | word (name : String) (set : String → ω → ω)
  /-- A word and all that follows it, options included. -/
  | rest (name : String) (read : List String → ω → Except Stop ω)

/-- How the arguments of a command are read. -/
structure Parser (ω : Type) where
  program : String
  switches : List (Switch ω)
  positional : Positional ω

/-- What a word of the command line is. -/
inductive Kind (ω : Type) where
  | word
  /-- The two hyphens after which there are only words. -/
  | separator
  /-- An option, if it is known, and the value that is given with it. -/
  | option (switch : Option (Switch ω)) (given : Option String)

variable {ω : Type}

/-- Whether a word stays one even if it is no option: a negative number. -/
def isNegativeNumber (s : String) : Bool :=
  let isDigit (c : Char) : Bool := (Text.decimalValue? c).isSome
  match s.toList with
  | '-' :: cs =>
    let whole := cs.takeWhile isDigit
    match cs.dropWhile isDigit with
    | [] => ! whole.isEmpty
    | '.' :: fraction => ! fraction.isEmpty && fraction.all isDigit
    | _ => false
  | _ => false

/-- A text split at its first equals sign, if it has one. -/
def splitValue (s : String) : String × Option String :=
  let cs := s.toList
  let name := cs.takeWhile (· != '=')
  if name.length = cs.length then (s, none)
  else (String.ofList name, some (String.ofList (cs.drop (name.length + 1))))

namespace Parser

variable (p : Parser ω)

/-- All names of options, with the options. -/
def names : List (String × Switch ω) :=
  p.switches.flatMap fun s => s.names.map fun name => (name, s)

/-- The options that a word may stand for, if no option has just that name. -/
def candidates (s : String) : List (String × Switch ω × Option String) :=
  if s.startsWith "--" then
    let (name, given) := splitValue s
    p.names.filterMap fun (full, switch) =>
      if full.startsWith name then some (full, switch, given) else none
  else
    let letter := String.ofList (s.toList.take 2)
    let more := String.ofList (s.toList.drop 2)
    p.names.filterMap fun (full, switch) =>
      if full == letter then some (full, switch, some more)
      else if full.startsWith s then some (full, switch, none)
      else none

/-- What a word is, if it stands before any two hyphens. -/
def kindOf (s : String) : Except Stop (Kind ω) :=
  if s == "--" then .ok .separator
  else if ! s.startsWith "-" then .ok .word
  else match p.names.lookup s with
    | some switch => .ok (.option (some switch) none)
    | none =>
      let (name, given) := splitValue s
      if s == "-" then .ok .word
      else match given, p.names.lookup name with
        | some value, some switch => .ok (.option (some switch) (some value))
        | _, _ =>
          match p.candidates s with
          | [(_, switch, given)] => .ok (.option (some switch) given)
          | [] =>
            if isNegativeNumber s || s.toList.contains ' ' then .ok .word
            else .ok (.option none none)
          | several =>
            let full := String.intercalate ", " (several.map (·.1))
            .error (.usage p.program s!"ambiguous option: {s} could match {full}")

/-- What the words of a command line are. -/
def kinds : List String → Except Stop (List (String × Kind ω))
  | [] => .ok []
  | s :: rest => do
    match ← p.kindOf s with
    | .separator => return (s, .separator) :: rest.map (·, .word)
    | kind => return (s, kind) :: (← kinds rest)

/-- A complaint about an option. -/
def complain {α : Type} (s : Switch ω) (words : String) : Except Stop α :=
  let names := String.intercalate "/" s.names
  .error (.usage p.program s!"argument {names}: {words}")

/-- Does what an option says, with the value given to it. -/
def takeValue (s : Switch ω) (read : String → Except String (ω → ω)) (value : String) (state : ω) :
    Except Stop ω :=
  if value == "--" then
    .error (.failed ⟨"ValueError", "not enough values to unpack (expected 1, got 0)"⟩)
  else match read value with
    | .ok change => .ok (change state)
    | .error words => p.complain s words

/-- The words that are left over, and what was read. -/
structure Result (ω : Type) where
  state : ω
  /-- Whether what has to stand between the options was there. -/
  complete : Bool
  extras : List String

/-- Takes what stands between the options, if it comes next: what was read, and how many words it
took. -/
def takePositional (words : List (String × Kind ω)) (state : ω) : Except Stop (Option (ω × Nat)) :=
  let dashes := (words.takeWhile fun w => w.2 matches .separator).length
  match words.drop dashes with
  | (s, .word) :: after =>
    match p.positional with
    | .nothing => .ok none
    | .word _ set =>
      let trailing := (after.takeWhile fun w => w.2 matches .separator).length
      .ok (some (set s state, dashes + 1 + trailing))
    | .rest _ read => do
      let state ← read (words.map (·.1)) state
      return some (state, words.length)
  | _ => .ok none

/-- Does what an option says: what was read, and what follows. -/
def takeOption (word : String) (switch : Option (Switch ω)) (given : Option String)
    (after : List (String × Kind ω)) (r : Result ω) :
    Except Stop (Result ω × List (String × Kind ω)) :=
  match switch with
  | none => .ok ({ r with extras := r.extras ++ [word] }, after)
  | some s =>
    match s.action, given with
    | .value read, some value => do
      return ({ r with state := ← p.takeValue s read value r.state }, after)
    | .value read, none =>
      match after with
      | (value, .word) :: after => do
        return ({ r with state := ← p.takeValue s read value r.state }, after)
      | _ => p.complain s "expected one argument"
    | .help, none => .error (.help p.program)
    | .flag set, none => .ok ({ r with state := set r.state }, after)
    | _, some value => p.complain s ("ignored explicit argument " ++ (Data.text value).quoted)

/-- Reads words in order; `fuel` is above their number. -/
def readWords (r : Result ω) (words : List (String × Kind ω)) : Nat → Except Stop (Result ω)
  | 0 => .ok r
  | fuel + 1 => do
    match words with
    | [] => return r
    | (s, .option switch given) :: after =>
      let (r, after) ← p.takeOption s switch given after r
      readWords r after fuel
    | (s, _) :: after =>
      let taken ← if r.complete then pure none else p.takePositional words r.state
      match taken with
      | some (state, count) =>
        readWords { r with state, complete := true } (words.drop count) fuel
      | none => readWords { r with extras := r.extras ++ [s] } after fuel

/-- Reads a command line: what it says, and the words that are left over. -/
def read (start : ω) (args : List String) : Except Stop (ω × List String) := do
  let words ← p.kinds args
  let r ← p.readWords ⟨start, false, []⟩ words (words.length + 1)
  match p.positional, r.complete with
  | .word name _, false | .rest name _, false =>
    throw (.usage p.program s!"the following arguments are required: {name}")
  | _, _ => return (r.state, r.extras)

end Parser

end SnippetRunner.Command
