import SnippetRunner.Data
import SnippetRunner.Number.Division

/-!
# Values of a running snippet

A value is either complete in itself, such as a number or a text, or a reference to an object.
-/

namespace SnippetRunner.Evaluation

/-- The bindings that a context gives every snippet of its own. -/
inductive OwnBinding where
  | print
  | log
  /-- A level of the log. -/
  | logLevel (name : String)
  /-- What all levels of the log write with. -/
  | logWrite
  | callLater
  | callEvery
  | cancelCall
  | cancelEvery
  /-- The import guard with the modules it lets through. -/
  | importer (allowed : List String)
  deriving Repr, DecidableEq

/-- A value. -/
inductive Value where
  | none
  | notImplemented
  | ellipsis
  | bool (b : Bool)
  | int (n : Int)
  | float (x : Float)
  /-- A float that is not a number, with a mark that tells it from others. -/
  | nan (mark : Nat)
  | complex (re im : Float)
  | text (s : String)
  | bytes (bs : List UInt8)
  | tuple (items : List Value)
  | range (start stop step : Int)
  | slice (lower upper step : Value)
  /-- A type or a kind of error that every snippet knows, by name. -/
  | type (name : String)
  /-- A function that every snippet knows, by name. -/
  | builtin (name : String)
  /-- A method of a value of a known type. -/
  | method (self : Value) (name : String)
  /-- A function together with its first argument. -/
  | bound (self function : Value)
  | own (binding : OwnBinding)
  | ref (address : Nat)
  deriving Inhabited

/-- Values by name, in the order in which the names were added. -/
abbrev Table := List (String × Value)

namespace Table

/-- The value of a name. -/
def get? (t : Table) (id : String) : Option Value := (t.find? (·.1 == id)).map (·.2)

/-- Replaces the value of a name, if it is there. -/
def replace? (id : String) (v : Value) : Table → Option Table
  | [] => none
  | (name, w) :: rest =>
    if name == id then some ((name, v) :: rest) else (replace? id v rest).map ((name, w) :: ·)

/-- Sets the value of a name: in its place if it is there, else at the end. -/
def put (t : Table) (id : String) (v : Value) : Table :=
  match replace? id v t with
  | some t => t
  | none => t ++ [(id, v)]

/-- Sets all names of another table. -/
def update (t more : Table) : Table := more.foldl (fun t entry => t.put entry.1 entry.2) t

/-- Removes a name. -/
def erase (t : Table) (id : String) : Table := t.filter (·.1 != id)

/-- Whether a name is there. -/
def has (t : Table) (id : String) : Bool := t.any (·.1 == id)

end Table

namespace Value

/-- The float that is not a number. -/
def notNumber : Float := 0.0 / 0.0

mutual

/-- The plain data that a value is, if it is complete in itself. -/
def toData? : Value → Option Data
  | .none => some .null
  | .bool b => some (.bool b)
  | .int n => some (.int n)
  | .float x => some (.float x)
  | .nan _ => some (.float notNumber)
  | .text s => some (.text s)
  | .bytes bs => some (.bytes bs)
  | .tuple items => (toDataAll? items).map .tuple
  | _ => Option.none

/-- The plain data of values in a row. -/
def toDataAll? : List Value → Option (List Data)
  | [] => some []
  | v :: rest =>
    match toData? v, toDataAll? rest with
    | some d, some ds => some (d :: ds)
    | _, _ => Option.none

end

/-- The float that a value is. -/
def float? : Value → Option Float
  | .float x => some x
  | .nan _ => some notNumber
  | _ => Option.none

/-- The real number that a value is; truth values count as zero and one. -/
def numeric? : Value → Option Data.Numeric
  | .bool b => some (.int (if b then 1 else 0))
  | .int n => some (.int n)
  | .float x => some (.float x)
  | .nan _ => some (.float notNumber)
  | _ => Option.none

/-- The integer that a value is. -/
def int? : Value → Option Int
  | .bool b => some (if b then 1 else 0)
  | .int n => some n
  | _ => Option.none

end Value

end SnippetRunner.Evaluation
