import SnippetRunner.Data
import SnippetRunner.Search.Form
import SnippetRunner.Text.Identifier
import SnippetRunner.Text.Name
import SnippetRunner.Text.Quoted

/-!
# Reading forms

The notation of forms, and what is complained about one that does not follow it. A complaint names
the place at which reading stood, or one a little before.
-/

namespace SnippetRunner.Search

/-! ## Options -/

/-- Options of a search, as a sum of powers of two. -/
abbrev Options := Nat

namespace Options

/-- Capital and small letters are the same. -/
def fold : Options := 2

/-- The conventions of a place count. -/
def locale : Options := 4

/-- Lines have a start and an end of their own. -/
def lines : Options := 8

/-- Any character may be a line break. -/
def breaks : Options := 16

/-- Classes hold characters of all scripts. -/
def allScripts : Options := 32

/-- Blanks and comments in the notation mean nothing. -/
def verbose : Options := 64

/-- Classes hold ASCII characters only. -/
def ascii : Options := 256

/-- Options that exclude each other. -/
def exclusive : Options := ascii ||| locale ||| allScripts

/-- Whether an option is among others. -/
def has (options option : Options) : Bool := options &&& option != 0

/-- Options without some. -/
def without (options others : Options) : Options := options ^^^ (options &&& others)

/-- Options once some are turned on and some off. -/
def changed (options on off : Options) : Options :=
  let kept := if on.has exclusive then options.without exclusive else options
  (kept ||| on).without off

/-- The letters of options. -/
def letters : List (Char × Options) :=
  [('i', fold), ('L', locale), ('m', lines), ('s', breaks), ('x', verbose), ('a', ascii), ('t', 1),
    ('u', allScripts)]

/-- The option of a letter. -/
def ofLetter? (c : Char) : Option Options := letters.lookup c

end Options

/-! ## The state of a reader -/

/-- Why a notation is refused. -/
inductive Fault where
  /-- A complaint about the notation, perhaps with a place. -/
  | malformed (message : String) (place : Option Nat)
  | other (problem : Problem)

/-- How far reading has come. -/
structure Cursor where
  text : Array Char
  /-- Whether the notation is a text, and not a byte string. -/
  isText : Bool
  place : Nat := 0
  options : Options
  /-- The widths of groups by number, of those that have ended. -/
  groups : List (Option Width) := [some (0, some 0)]
  names : List (String × Nat) := []
  /-- How many groups there were at the start of what has to stand before. -/
  behind : Option Nat := none
  /-- Groups that were asked for by number, with places. -/
  asked : List (Nat × Nat) := []
  /-- Whether something that has to stand before has no length of its own. -/
  loose : Bool := false

/-- What reads a part of a notation. -/
abbrev Reading := EStateM Fault Cursor

namespace Reading

/-- Where reading stands. -/
def tell : Reading Nat := return (← get).place

/-- Refuses the notation so many characters before the place where reading stands. -/
def refuse {α : Type} (message : String) (before : Nat) : Reading α := do
  throw (.malformed message (some ((← tell) - before)))

/-- The next sign: a character, or two of which the first is a backslash. -/
def peek : Reading (List Char) := do
  let c ← get
  match c.text[c.place]? with
  | none => return []
  | some '\\' =>
    match c.text[c.place + 1]? with
    | some d => return ['\\', d]
    | none => throw (.malformed "bad escape (end of pattern)" (some (c.text.size - 1)))
  | some d => return [d]

/-- Takes the next sign. -/
def take : Reading (List Char) := do
  let sign ← peek
  modify fun c => { c with place := c.place + sign.length }
  return sign

/-- Takes a character if it comes next. -/
def accept (d : Char) : Reading Bool := do
  if (← peek) == [d] then
    let _ ← take
    return true
  else return false

/-- Takes at most so many characters that satisfy a test. -/
def takeWhile (test : Char → Bool) : Nat → Reading (List Char)
  | 0 => return []
  | count + 1 => do
    match ← peek with
    | [d] =>
      if test d then
        let _ ← take
        return d :: (← takeWhile test count)
      else return []
    | _ => return []

/-- Takes what stands before an end. -/
def takeUntil (finish : Char) (what : String) (taken : List Char) : Nat → Reading String
  | 0 => refuse ("missing " ++ what) 0
  | fuel + 1 => do
    match ← take with
    | [] =>
      if taken.isEmpty then refuse ("missing " ++ what) 0
      else refuse s!"missing {finish}, unterminated name" taken.length
    | [d] =>
      if d == finish then
        if taken.isEmpty then refuse ("missing " ++ what) 1
        else return String.ofList taken
      else takeUntil finish what (taken ++ [d]) fuel
    | sign => takeUntil finish what (taken ++ sign) fuel

/-- The name of a group before an end. -/
def nameBefore (finish : Char) : Reading String := do
  takeUntil finish "group name" [] ((← get).text.size + 1)

/-- Refuses a name that is none. -/
def checkName (name : String) : Reading Unit := do
  if ! Text.isIdentifier name then
    refuse s!"bad character in group name {Text.quoted name}" (name.length + 1)

/-- Whether a group has ended. -/
def hasEnded (number : Nat) : Reading Bool := do
  return ((← get).groups[number]?.bind id).isSome

/-- Refuses a group that cannot be asked for in what has to stand before. -/
def checkBehind (number : Nat) : Reading Unit := do
  match (← get).behind with
  | none => return
  | some limit =>
    if ! (← hasEnded number) then refuse "cannot refer to an open group" 0
    if limit ≤ number then
      refuse "cannot refer to group defined in the same lookbehind subpattern" 0

/-! ## Single characters -/

/-- The characters that some letters stand for. -/
def controls : List (Char × Char) :=
  [('a', '\x07'), ('b', '\x08'), ('f', '\x0c'), ('n', '\n'), ('r', '\r'), ('t', '\t'),
    ('v', '\x0b'), ('\\', '\\')]

/-- The classes that some letters stand for. -/
def categories : List (Char × Category × Bool) :=
  [('d', .digit, false), ('D', .digit, true), ('s', .blank, false), ('S', .blank, true),
    ('w', .word, false), ('W', .word, true)]

/-- Whether a character is a digit with a value below eight. -/
def isOctal (c : Char) : Bool := '0' ≤ c && c ≤ '7'

/-- Whether a character is a hexadecimal digit. -/
def isHex (c : Char) : Bool :=
  c.isDigit || ('a' ≤ c && c ≤ 'f') || ('A' ≤ c && c ≤ 'F')

/-- The number that octal digits stand for. -/
def octalNumber (digits : List Char) : Nat :=
  digits.foldl (fun n c => 8 * n + (c.toNat - '0'.toNat)) 0

/-- Refuses an escape. -/
def badEscape {α : Type} (escape : List Char) : Reading α :=
  refuse s!"bad escape {String.ofList escape}" escape.length

/-- The character of a code with so many hexadecimal digits. -/
def hexCharacter (escape : List Char) (count : Nat) : Reading Char := do
  let digits ← takeWhile isHex count
  let escape := escape ++ digits
  if digits.length ≠ count then
    refuse s!"incomplete escape {String.ofList escape}" escape.length
  let code := Text.Name.hexNumber digits
  if 0x110000 ≤ code then badEscape escape
  return Text.charOf code

/-- The character that a name in braces stands for. -/
def namedCharacter : Reading Char := do
  if ! (← accept '\x7b') then refuse "missing \x7b" 0
  let name ← takeUntil '\x7d' "character name" [] ((← get).text.size + 1)
  match Text.named? name with
  | some c => return c
  | none => refuse s!"undefined character name {Text.quoted name}" (name.length + 4)

/-- The character of an octal code. -/
def octalCharacter (escape : List Char) : Reading Char := do
  let code := octalNumber (escape.drop 1)
  if 0o377 < code then
    refuse s!"octal escape value {String.ofList escape} outside of range 0-0o377" escape.length
  return Char.ofNat code

/-- The character of an escape that means the same everywhere. -/
def plainEscape (escape : List Char) (d : Char) : Reading Char := do
  let isText := (← get).isText
  if d == 'x' then hexCharacter escape 2
  else if d == 'u' && isText then hexCharacter escape 4
  else if d == 'U' && isText then hexCharacter escape 8
  else if d == 'N' && isText then namedCharacter
  else if d.isAlphanum then badEscape escape
  else return d

/-- An escape in a set. -/
def setEscape (d : Char) : Reading Member := do
  let escape := ['\\', d]
  match controls.lookup d, categories.lookup d with
  | some c, _ => return .single c
  | none, some (category, negated) => return .category category negated
  | none, none =>
    if isOctal d then return .single (← octalCharacter (escape ++ (← takeWhile isOctal 2)))
    return .single (← plainEscape escape d)

/-- What an escape stands for that is a place. -/
def anchorOf? (d : Char) (ascii : Bool) : Option Anchor :=
  match d with
  | 'A' => some .start
  | 'b' => some (.border true ascii)
  | 'B' => some (.border false ascii)
  | 'Z' => some .veryEnd
  | _ => none

/-- What a group has taken once more, or the character of an octal code. -/
def numberedEscape (d : Char) (fold : Bool) : Reading Form := do
  let escape := ['\\', d]
  let more ← takeWhile Char.isDigit 1
  let third ← if isOctal d && more.all isOctal && !more.isEmpty then takeWhile isOctal 1 else pure []
  if !third.isEmpty then
    return .single (← octalCharacter (escape ++ more ++ third)) fold
  let digits := d :: more
  let number := digits.foldl (fun n c => 10 * n + (c.toNat - '0'.toNat)) 0
  if number < (← get).groups.length then
    if ! (← hasEnded number) then
      refuse "cannot refer to an open group" (digits.length + 1)
    checkBehind number
    return .reference number fold
  refuse s!"invalid group reference {number}" digits.length

/-- An escape outside of sets. -/
def escape (d : Char) (options : Options) : Reading Form := do
  let ascii := options.has Options.ascii || ! (← get).isText
  let fold := options.has Options.fold
  match categories.lookup d, anchorOf? d ascii, controls.lookup d with
  | some (category, negated), _, _ => return .set negated [.category category false] false ascii
  | none, some anchor, _ => return .anchor anchor
  | none, none, some c => return .single c fold
  | none, none, none =>
    if d == '0' then
      return .single (Char.ofNat (octalNumber (← takeWhile isOctal 2))) fold
    else if d.isDigit then numberedEscape d fold
    else return .single (← plainEscape ['\\', d] d) fold

/-! ## Sets -/

/-- A sign of a set. -/
def setMember (sign : List Char) : Reading Member := do
  match sign with
  | ['\\', d] => setEscape d
  | [d] => return .single d
  | _ => return .single ' '

/-- The members of a set that began at a place. -/
def members (start : Nat) (known : List Member) : Nat → Reading (List Member)
  | 0 => return known
  | fuel + 1 => do
    let unfinished {α : Type} : Reading α := do
      refuse "unterminated character set" ((← tell) - start)
    let sign ← take
    if sign.isEmpty then unfinished
    if sign == [']'] && !known.isEmpty then return known
    let one ← setMember sign
    if ! (← accept '-') then members start (known ++ [one]) fuel
    else
      let other ← take
      if other.isEmpty then unfinished
      if other == [']'] then return known ++ [one, .single '-']
      let bad {α : Type} : Reading α :=
        refuse s!"bad character range {String.ofList sign}-{String.ofList other}"
          (sign.length + 1 + other.length)
      match one, ← setMember other with
      | .single a, .single b =>
        if b < a then bad else members start (known ++ [.range a b]) fuel
      | _, _ => bad

/-- A set whose bracket has been taken. -/
def bracketed (options : Options) : Reading Form := do
  let start := (← tell) - 1
  let negated ← accept '^'
  let known ← members start [] ((← get).text.size + 1)
  let ascii := options.has Options.ascii || ! (← get).isText
  return .set negated known (options.has Options.fold) ascii

/-! ## Repetitions -/

/-- More repetitions than can be asked for. -/
def repetitionLimit : Nat := 4294967295

/-- The number of repetitions that digits stand for. -/
def repetitions (digits : List Char) : Reading Nat := do
  let n := digits.foldl (fun n c => 10 * n + (c.toNat - '0'.toNat)) 0
  if repetitionLimit ≤ n then
    throw (.other ⟨"OverflowError", "the repetition number is too large"⟩)
  return n

/-- The limits of a repetition whose brace has been taken; nothing if the brace stands for itself. -/
def limits? : Reading (Option (Nat × Option Nat)) := do
  let start ← tell
  if (← peek) == ['\x7d'] then return none
  let size := (← get).text.size
  let low ← takeWhile Char.isDigit size
  let high ← if ← accept ',' then takeWhile Char.isDigit size else pure low
  if ! (← accept '\x7d') then
    modify fun c => { c with place := start }
    return none
  let least ← if low.isEmpty then pure 0 else repetitions low
  let most ← if high.isEmpty then pure none else some <$> repetitions high
  if most.any (· < least) then
    refuse "min repeat greater than max repeat" ((← tell) - start)
  return some (least, most)

/-- Whether something is a repetition. -/
def isRepetition : Form → Bool
  | .repeated _ _ _ _ => true
  | _ => false

/-- Whether something is a place. -/
def isAnchor : Form → Bool
  | .anchor _ => true
  | _ => false

/-- The last of the parts repeated; the sign for it began at a place. -/
def repetition (start : Nat) (limits : Nat × Option Nat) (known : List Form) :
    Reading (List Form) := do
  let before := (← tell) - start
  match known.getLast? with
  | none => refuse "nothing to repeat" before
  | some item =>
    if isAnchor item then refuse "nothing to repeat" before
    if isRepetition item then refuse "multiple repeat" before
    let manner : Manner ←
      if ← accept '?' then pure .seldom else if ← accept '+' then pure .final else pure .often
    return known.dropLast ++ [.repeated limits.1 limits.2 manner item]

/-! ## Options inside a form -/

/-- The complaint about a character that is no option. -/
def strangeOption {α : Type} (d : Char) (missing : String) : Reading α :=
  refuse (if Text.isLetter d then "unknown flag" else missing) 1

/-- A character that must be there. -/
def nextCharacter (missing : String) : Reading Char := do
  match ← take with
  | [] => refuse missing 0
  | d :: _ => return d

/-- Options that are turned on, and the character after them. -/
def optionsOn (on : Options) (d : Char) : Nat → Reading (Options × Char)
  | 0 => return (on, d)
  | fuel + 1 => do
    let option := (Options.ofLetter? d).getD 0
    let isText := (← get).isText
    if isText && d == 'L' then
      refuse "bad inline flags: cannot use 'L' flag with a str pattern" 0
    if !isText && d == 'u' then
      refuse "bad inline flags: cannot use 'u' flag with a bytes pattern" 0
    let on := on ||| option
    if option.has Options.exclusive && on &&& Options.exclusive != option then
      refuse "bad inline flags: flags 'a', 'u' and 'L' are incompatible" 0
    let d ← nextCharacter "missing -, : or )"
    if [')', '-', ':'].contains d then return (on, d)
    else if (Options.ofLetter? d).isSome then optionsOn on d fuel
    else strangeOption d "missing -, : or )"

/-- Options that are turned off. -/
def optionsOff (off : Options) (d : Char) : Nat → Reading Options
  | 0 => return off
  | fuel + 1 => do
    let option := (Options.ofLetter? d).getD 0
    if option.has Options.exclusive then
      refuse "bad inline flags: cannot turn off flags 'a', 'u' and 'L'" 0
    let off := off ||| option
    let d ← nextCharacter "missing :"
    if d == ':' then return off
    else if (Options.ofLetter? d).isSome then optionsOff off d fuel
    else strangeOption d "missing :"

/-- Options that are turned on and off, or none if they hold for the whole form. -/
def optionChange (d : Char) : Reading (Option (Options × Options)) := do
  let fuel := (← get).text.size + 1
  let (on, d) ← if d == '-' then pure (0, d) else optionsOn 0 d fuel
  if d == ')' then
    modify fun c => { c with options := c.options ||| on }
    return none
  if on &&& 129 != 0 then refuse "bad inline flags: cannot turn on global flag" 1
  let off ←
    if d == '-' then
      let d ← nextCharacter "missing flag"
      if (Options.ofLetter? d).isNone then strangeOption d "missing flag"
      optionsOff 0 d fuel
    else pure 0
  if off &&& 129 != 0 then refuse "bad inline flags: cannot turn off global flag" 1
  if on &&& off != 0 then refuse "bad inline flags: flag turned on and off" 1
  return some (on, off)

/-! ## Groups -/

/-- Begins a group. -/
def openGroup (name : Option String) : Reading Nat := do
  let c ← get
  let number := c.groups.length
  match name with
  | none => set { c with groups := c.groups ++ [none] }
  | some id =>
    match c.names.lookup id with
    | some other =>
      refuse (s!"redefinition of group name {Text.quoted id} as group {number}; "
        ++ s!"was group {other}") (id.length + 1)
    | none => set { c with groups := c.groups ++ [none], names := c.names ++ [(id, number)] }
  return number

/-- The widths of all groups. -/
def widths : Reading (List Width) := return (← get).groups.map (·.getD (0, none))

/-- Ends a group. -/
def closeGroup (number : Nat) (body : Form) : Reading Unit := do
  let width := body.width (← widths)
  modify fun c => { c with groups := c.groups.set number (some width) }

/-- Takes the end of what began at a place. -/
def finishGroup (start : Nat) : Reading Unit := do
  if ! (← accept ')') then
    refuse "missing ), unterminated subpattern" ((← tell) - start)

/-- A group that was asked for by name. -/
def namedReference (options : Options) : Reading Form := do
  let name ← nameBefore ')'
  checkName name
  match (← get).names.lookup name with
  | none => refuse s!"unknown group name {Text.quoted name}" (name.length + 1)
  | some number =>
    if ! (← hasEnded number) then refuse "cannot refer to an open group" (name.length + 1)
    checkBehind number
    return .reference number (options.has Options.fold)

/-- The group of a condition. -/
def conditionGroup : Reading Nat := do
  let name ← nameBefore ')'
  let before := name.length + 1
  let number ←
    if Text.isIdentifier name then
      match (← get).names.lookup name with
      | some number => pure number
      | none => refuse s!"unknown group name {Text.quoted name}" before
    else match name.toNat? with
      | none => refuse s!"bad character in group name {Text.quoted name}" before
      | some 0 => refuse "bad group number" before
      | some number =>
        let place := (← tell) - before
        modify fun c => { c with asked := c.asked ++ [(number, place)] }
        pure number
  checkBehind number
  return number

/-- Skips a comment that began at a place. -/
def comment (start : Nat) : Nat → Reading Unit
  | 0 => return
  | fuel + 1 => do
    match ← take with
    | [] => refuse "missing ), unterminated comment" ((← tell) - start)
    | [')'] => return
    | _ => comment start fuel

/-- Skips the rest of a line. -/
def skipLine : Nat → Reading Unit
  | 0 => return
  | fuel + 1 => do
    let sign ← take
    if !sign.isEmpty && sign != ['\n'] then skipLine fuel

/-- What several forms are, one after the other. -/
def joined : List Form → Form
  | [f] => f
  | parts => .sequence parts

/-- What a parenthesis begins. -/
inductive Parenthesis where
  | form (form : Form)
  | nothing
  /-- Options of the whole. -/
  | options

mutual

/-- Forms to choose from. The outermost ones have the options of the whole. -/
def ways (outermost : Bool) (options : Options) (known : List Form) : Nat → Reading Form
  | 0 => return joined known
  | fuel + 1 => do
    let own ← if outermost then (·.options) <$> get else pure options
    let parts ← sequence outermost (outermost && known.isEmpty) own [] fuel
    let known := known ++ [.sequence parts]
    if ← accept '|' then ways outermost options known fuel
    else return match known with
      | [f] => f
      | _ => .branch known
termination_by structural fuel => fuel

/-- Forms one after the other. Options of the whole may stand at the start of the `first` ones. -/
def sequence (outermost first : Bool) (options : Options) (known : List Form) :
    Nat → Reading (List Form)
  | 0 => return known
  | fuel + 1 => do
    let start ← tell
    let more (f : Form) : Reading (List Form) := sequence outermost first options (known ++ [f]) fuel
    let same : Reading (List Form) := sequence outermost first options known fuel
    let again (limits : Nat × Option Nat) : Reading (List Form) := do
      sequence outermost first options (← repetition start limits known) fuel
    let fold := options.has Options.fold
    match ← peek with
    | [] | ['|'] | [')'] => return known
    | sign =>
      let _ ← take
      match sign with
      | ['\\', d] => more (← escape d options)
      | [d] =>
        if options.has Options.verbose && [' ', '\t', '\n', '\r', '\x0b', '\x0c'].contains d then
          same
        else if options.has Options.verbose && d == '#' then
          skipLine fuel
          same
        else match d with
          | '[' => more (← bracketed options)
          | '.' => more (.any (options.has Options.breaks))
          | '^' => more (.anchor (if options.has Options.lines then .lineStart else .start))
          | '$' => more (.anchor (if options.has Options.lines then .lineEnd else .finish))
          | '?' => again (0, some 1)
          | '*' => again (0, none)
          | '+' => again (1, none)
          | '\x7b' =>
            match ← limits? with
            | none => more (.single d fold)
            | some limits => again limits
          | '(' =>
            match ← group start options fuel with
            | .form f => more f
            | .nothing => same
            | .options =>
              if !first || !known.isEmpty then
                refuse "global flags not at the start of the expression" ((← tell) - start)
              sequence outermost first (← get).options known fuel
          | _ => more (.single d fold)
      | _ => same
termination_by structural fuel => fuel

/-- What a parenthesis at a place begins. -/
def group (start : Nat) (options : Options) : Nat → Reading Parenthesis
  | 0 => return .nothing
  | fuel + 1 => do
    let capture (name : Option String) : Reading Parenthesis := do
      let number ← openGroup name
      let body ← ways false options [] fuel
      finishGroup start
      closeGroup number body
      return .form (.group number body)
    let inner (options : Options) (wrap : Form → Form) : Reading Parenthesis := do
      let body ← ways false options [] fuel
      finishGroup start
      return .form (wrap body)
    let plain (f : Form) : Form := .sequence [f]
    if ! (← accept '?') then capture none
    else match ← nextCharacter "unexpected end of pattern" with
      | 'P' =>
        if ← accept '<' then
          let name ← nameBefore '>'
          checkName name
          capture (some name)
        else if ← accept '=' then return .form (← namedReference options)
        else
          let d ← nextCharacter "unexpected end of pattern"
          refuse ("unknown extension ?P" ++ d.toString) 3
      | ':' => inner options plain
      | '>' => inner options .atomic
      | '#' =>
        comment start fuel
        return .nothing
      | '=' => inner options (.look none true)
      | '!' => inner options (.look none false)
      | '<' =>
        let d ← nextCharacter "unexpected end of pattern"
        if d != '=' && d != '!' then refuse ("unknown extension ?<" ++ d.toString) 3
        let outside := (← get).behind
        modify fun c => { c with behind := some (outside.getD c.groups.length) }
        let body ← ways false options [] fuel
        modify fun c => { c with behind := outside }
        finishGroup start
        let (least, most) := body.width (← widths)
        if most != some least then modify fun c => { c with loose := true }
        return .form (.look (some least) (d == '=') body)
      | '(' =>
        let number ← conditionGroup
        let yes := joined (← sequence false false options [] fuel)
        let no ← if ← accept '|' then some <$> sequence false false options [] fuel else pure none
        if no.isSome && (← peek) == ['|'] then
          refuse "conditional backref with more than two branches" 0
        finishGroup start
        return .form (.conditional number yes (joined (no.getD [])))
      | d =>
        if d == '-' || (Options.ofLetter? d).isSome then
          match ← optionChange d with
          | none => return .options
          | some (on, off) => inner (options.changed on off) plain
        else refuse ("unknown extension ?" ++ d.toString) 2
termination_by structural fuel => fuel

end

end Reading

/-- A form with what is told about it. -/
structure Compiled where
  form : Form
  options : Options
  /-- How many groups there are. -/
  groups : Nat
  names : List (String × Nat)

/-- The options that a form has in the end. -/
def settled (isText : Bool) (options : Options) : Except Fault Options :=
  let clash (message : String) : Except Fault Options := .error (.other ⟨"ValueError", message⟩)
  if isText then
    if options.has Options.locale then clash "cannot use LOCALE flag with a str pattern"
    else if ! options.has Options.ascii then .ok (options ||| Options.allScripts)
    else if options.has Options.allScripts then clash "ASCII and UNICODE flags are incompatible"
    else .ok options
  else if options.has Options.allScripts then clash "cannot use UNICODE flag with a bytes pattern"
  else if options.has Options.locale && options.has Options.ascii then
    clash "ASCII and LOCALE flags are incompatible"
  else .ok options

/-- Reads a form. -/
def Compiled.read (text : Array Char) (isText : Bool) (options : Options) :
    Except Fault Compiled :=
  match (Reading.ways true options [] (4 * text.size + 10)).run { text, isText, options } with
  | .error fault _ => .error fault
  | .ok form c => do
    let options ← settled isText c.options
    if c.place < text.size then throw (.malformed "unbalanced parenthesis" (some c.place))
    match c.asked.find? fun (number, _) => c.groups.length ≤ number with
    | some (number, place) => throw (.malformed s!"invalid group reference {number}" (some place))
    | none => pure ()
    if c.loose then throw (.malformed "look-behind requires fixed-width pattern" none)
    return { form, options, groups := c.groups.length - 1, names := c.names }

end SnippetRunner.Search
