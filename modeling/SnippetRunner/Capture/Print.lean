import SnippetRunner.Capture.Buffer

/-!
# Printing into the buffer

A call of `print` joins the texts of its arguments with a separator and adds a terminator. Both
may be left out, may be text or bytes, or may be something that is neither; only a result that
can be put together reaches the buffer, in one piece.
-/

namespace SnippetRunner.Capture

/-- What a caller gives as separator or terminator. -/
inductive Joiner where
  /-- Left out, or given as nothing. -/
  | standard
  | text (s : String)
  | bytes (bs : List UInt8)
  | other (typeName : String)
  deriving Repr, DecidableEq

/-- The name of a joiner's type. -/
def Joiner.typeName : Joiner → String
  | .standard => "str"
  | .text _ => "str"
  | .bytes _ => "bytes"
  | .other typeName => typeName

/-- Why a call cannot be put together. -/
inductive PrintFault where
  /-- The separator has no way to join. -/
  | cannotJoin (typeName : String)
  /-- The separator joins bytes, and the arguments are text. -/
  | joinsBytes
  /-- The terminator cannot follow text. -/
  | cannotFollowText (typeName : String)
  /-- The terminator cannot follow bytes. -/
  | cannotFollowBytes (typeName : String)
  deriving Repr, DecidableEq

/-- The arguments joined by a separator. -/
def joined (args : List String) : Joiner → Except PrintFault Fragment
  | .standard => .ok (.text (String.intercalate " " args))
  | .text sep => .ok (.text (String.intercalate sep args))
  | .bytes _ => if args.isEmpty then .ok (.bytes []) else .error .joinsBytes
  | .other typeName => .error (.cannotJoin typeName)

/-- A fragment with a terminator after it. -/
def terminated : Fragment → Joiner → Except PrintFault Fragment
  | .text s, .standard => .ok (.text (s ++ "\n"))
  | .text s, .text terminator => .ok (.text (s ++ terminator))
  | .text _, last => .error (.cannotFollowText last.typeName)
  | .bytes bs, .bytes terminator => .ok (.bytes (bs ++ terminator))
  | .bytes _, last => .error (.cannotFollowBytes last.typeName)

/-- The fragment that a call prints. -/
def compose (args : List String) (separator terminator : Joiner) : Except PrintFault Fragment :=
  (joined args separator).bind (terminated · terminator)

/-- Why a call leaves the buffer as it was. -/
inductive PrintError where
  /-- A level of the log takes no options. -/
  | unexpectedOption (level name : String)
  | fault (fault : PrintFault)
  /-- An argument cannot be written. -/
  | unwritable (problem : Problem)
  | fractionalRoom (room : FractionalRoom)
  deriving Repr, DecidableEq

/-- Prints a call's arguments into the buffer. -/
def Buffer.print (b : Buffer) (args : List String) (separator terminator : Joiner) :
    Except PrintError Buffer :=
  match compose args separator terminator with
  | .error fault => .error (.fault fault)
  | .ok fragment =>
    match b.append fragment with
    | .error room => .error (.fractionalRoom room)
    | .ok b => .ok b

/-- The texts of arguments, each of them given as it is written or as why it cannot be. A separator
that cannot join is refused before any of them is written. -/
def argumentTexts (args : List (Except Problem String)) (separator : Joiner) :
    Except PrintError (List String) :=
  match separator with
  | .other typeName => .error (.fault (.cannotJoin typeName))
  | _ => (args.mapM id).mapError .unwritable

/-- The levels of the log binding; all of them print. -/
def logLevels : List String := ["debug", "info", "warning", "error"]

/-- A call of an output binding, with what its arguments are written as. Where else a printed text
should go, and whether at once, makes no difference. -/
inductive Call where
  | print (args : List (Except Problem String)) (separator terminator : Joiner)
  /-- A level of the log, with the names of the options it is called with. -/
  | log (level : String) (args : List (Except Problem String)) (options : List String)

/-- Prints arguments, each given as it is written. -/
def Buffer.printWritten (b : Buffer) (args : List (Except Problem String))
    (separator terminator : Joiner) : Except PrintError Buffer := do
  b.print (← argumentTexts args separator) separator terminator

/-- What a call makes of a buffer. Options of a log level are refused, the first of them by name. -/
def Buffer.perform (b : Buffer) : Call → Except PrintError Buffer
  | .print args separator terminator => b.printWritten args separator terminator
  | .log level _ (name :: _) => .error (.unexpectedOption level name)
  | .log _ args [] => b.printWritten args .standard .standard

/-- Prints plain values. -/
def Buffer.printData (b : Buffer) (args : List Data) (separator terminator : Joiner) :
    Except PrintError Buffer :=
  b.perform (.print (args.map Data.print) separator terminator)

/-- Prints plain values by a log level. -/
def Buffer.log (b : Buffer) (level : String) (args : List Data) (options : List String) :
    Except PrintError Buffer :=
  b.perform (.log level (args.map Data.print) options)

/-- The joiner that a plain value stands for. -/
def Joiner.ofData : Data → Joiner
  | .null => .standard
  | .text s => .text s
  | .bytes bs => .bytes bs
  | v => .other v.typeName

/-- What a caller is told about a call that cannot be put together. -/
def PrintFault.problem : PrintFault → Problem
  | .cannotJoin typeName =>
    ⟨"AttributeError", s!"'{typeName}' object has no attribute 'join'"⟩
  | .joinsBytes =>
    ⟨"TypeError", "sequence item 0: expected a bytes-like object, str found"⟩
  | .cannotFollowText typeName =>
    ⟨"TypeError", s!"can only concatenate str (not \"{typeName}\") to str"⟩
  | .cannotFollowBytes typeName => ⟨"TypeError", s!"can't concat {typeName} to bytes"⟩

/-- What a caller is told about a call that printed nothing. -/
def PrintError.problem : PrintError → Problem
  | .unexpectedOption level name =>
    ⟨"TypeError", s!"_CaptureLog.{level}() got an unexpected keyword argument '{name}'"⟩
  | .fault cause => cause.problem
  | .unwritable problem => problem
  | .fractionalRoom room => room.problem

end SnippetRunner.Capture
